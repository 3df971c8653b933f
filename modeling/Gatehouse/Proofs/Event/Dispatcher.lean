import Mathlib.Data.List.Nodup
import Mathlib.Data.List.Perm.Basic
import Gatehouse.Event.Dispatcher

/-!
# What becomes of events

Whatever the order in which callers and workers move, every accepted event is in one place, is handed to
the publisher at most once and in its turn, and is counted as unfinished exactly as long as it is.
-/

namespace Gatehouse.Dispatcher

/-! ## Moves -/

/-- Offers are turned away: the dispatcher does not run, or has a bound and has reached it. -/
def Refuses (d : Dispatcher) : Prop :=
  d.running = false ∨ (0 < d.limit ∧ d.limit ≤ d.queue.length)

theorem refuses_iff (d : Dispatcher) : d.Refuses ↔ d.running = false ∨ d.isFull = true := by
  simp [Refuses, isFull]

inductive Turn (d : Dispatcher) : Move → Dispatcher → Prop where
  | rest (m : Move) : Turn d m d
  | hire : Turn d .start d.hire
  | enqueue (topic : String) (payload : Json) (h : ¬ d.Refuses) :
      Turn d (.dispatch topic payload) (d.enqueue topic payload)
  | take {w : Worker} {job : Job} {rest : List Job} (id : Nat) (hw : d.worker? id = some w)
      (idle : w.job = none) (hq : d.queue = job :: rest) :
      Turn d (.take id)
        { d with queue := rest, workers := d.assign id (some job), handed := d.handed ++ [job] }
  | succeed {w : Worker} {job : Job} (id : Nat) (hw : d.worker? id = some w) (busy : w.job = some job) :
      Turn d (.succeed id)
        { d.taskDone with workers := d.assign id none, published := d.published ++ [job] }
  | fail {w : Worker} {job : Job} (id : Nat) (hw : d.worker? id = some w) (busy : w.job = some job) :
      Turn d (.fail id) { d.taskDone with workers := d.assign id none, failed := d.failed ++ [job] }
  | quit {w : Worker} (id : Nat) (hw : d.worker? id = some w) (idle : w.job = none)
      (told : w.dismissed = true) : Turn d (.leave id) (d.quit id)
  | abort {w : Worker} {job : Job} (id : Nat) (hw : d.worker? id = some w) (busy : w.job = some job)
      (told : w.dismissed = true) :
      Turn d (.leave id) { d.taskDone.quit id with cancelled := d.cancelled ++ [job] }
  | stop : Turn d .stop
      { d with
        stops := d.stops ++ [(d.asked, if d.unfinished = 0 then .drained else .draining)]
        asked := d.asked + 1 }
  | dismiss {m : Move} {h : Halt} (call : Nat) (hc : d.halt? call = some h)
      (waits : ∀ ids, h ≠ .ending ids) : Turn d m (d.dismiss call)
  | finish {ids : List Nat} (call : Nat) (hc : d.halt? call = some (.ending ids))
      (gone : ∀ w ∈ d.workers, w.id ∉ ids) :
      Turn d (.finish call) { d with tracked := [], stops := d.stops.filter (·.1 != call) }

theorem step_turn {d e : Dispatcher} {m : Move} {lines : List LogLine}
    (h : d.step m = some (e, lines)) : Turn d m e := by
  cases m with
  | start =>
    simp only [step] at h
    split at h <;> cases h
    · exact .rest _
    · exact .hire
  | dispatch topic payload =>
    simp only [step] at h
    by_cases hr : d.Refuses
    · rcases (refuses_iff d).mp hr with hr | hr <;> simp only [hr] at h
      · cases h; exact .rest _
      · split at h <;> cases h <;> exact .rest _
    · have := mt (refuses_iff d).mpr hr
      simp only [not_or, Bool.not_eq_false, Bool.not_eq_true] at this
      simp only [this] at h
      cases h
      exact .enqueue _ _ hr
  | take id =>
    simp only [step] at h
    split at h <;> cases h
    exact .take id ‹_› rfl ‹_›
  | succeed id =>
    simp only [step] at h
    split at h <;> cases h
    exact .succeed id ‹_› rfl
  | fail id =>
    simp only [step] at h
    split at h <;> cases h
    exact .fail id ‹_› rfl
  | leave id =>
    simp only [step] at h
    split at h <;> cases h
    · exact .quit id ‹_› rfl rfl
    · exact .abort id ‹_› rfl rfl
  | stop =>
    simp only [step] at h
    split at h <;> cases h
    · exact .stop
    · exact .rest _
  | drained call =>
    simp only [step] at h
    split at h <;> cases h
    exact .dismiss call ‹_› (by simp)
  | giveUp call =>
    simp only [step] at h
    split at h <;> cases h
    · exact .dismiss call ‹_› (by simp)
    · exact .dismiss call ‹_› (by simp)
  | finish call =>
    simp only [step] at h
    split at h
    · split at h <;> cases h
      rename_i all
      refine .finish call ‹_› ?_
      intro w hw
      simpa using List.all_eq_true.mp all w hw
    · cases h

theorem run_preserves {I : Dispatcher → Prop} {moves : List Move}
    (h : ∀ m ∈ moves, ∀ d e, Turn d m e → I d → I e) {d : Dispatcher} (hd : I d) : I (d.run moves).1 := by
  induction moves generalizing d with
  | nil => exact hd
  | cons m rest ih =>
    have hrest := fun m' hm => h m' (List.mem_cons_of_mem m hm)
    simp only [run]
    split
    · exact ih hrest hd
    · rename_i e lines hs
      exact ih hrest (h m (by simp) d e (step_turn hs) hd)

/-! ## Workers -/

theorem worker?_split {d : Dispatcher} {id : Nat} {w : Worker} (apart : (d.workers.map (·.id)).Nodup)
    (h : d.worker? id = some w) :
    ∃ before after, d.workers = before ++ w :: after ∧
      (∀ job, d.assign id job = before ++ { w with job := job } :: after) ∧
      (d.quit id).workers = before ++ after := by
  obtain ⟨hid, before, after, hd, hb⟩ := List.find?_eq_some_iff_append.mp h
  rw [hd, List.map_append, List.map_cons] at apart
  have hid : w.id = id := by simpa using hid
  have hafter : ∀ v ∈ after, v.id ≠ id := by
    intro v hv e
    have := (List.nodup_cons.mp (List.nodup_append.mp apart).2.1).1
    exact this (List.mem_map.mpr ⟨v, hv, e.trans hid.symm⟩)
  have hbefore : ∀ v ∈ before, v.id ≠ id := by
    intro v hv
    simpa using hb v hv
  refine ⟨before, after, hd, ?_, ?_⟩
  · intro job
    have keep : ∀ ws : List Worker, (∀ v ∈ ws, v.id ≠ id) →
        ws.map (fun v => if v.id == id then { v with job := job } else v) = ws := by
      intro ws hws
      rw [List.map_congr_left (g := fun v => v) (by intro v hv; simp [hws v hv]), List.map_id']
    simp only [assign, hd, List.map_append, List.map_cons, keep _ hbefore, keep _ hafter]
    simp [hid]
  · have keep : ∀ ws : List Worker, (∀ v ∈ ws, v.id ≠ id) → ws.filter (·.id != id) = ws := by
      intro ws hws
      exact List.filter_eq_self.mpr (by intro v hv; simp [hws v hv])
    simp [quit, hd, keep _ hbefore, keep _ hafter, hid]

theorem jobs_split (before after : List Worker) (w : Worker) :
    (before ++ w :: after).filterMap (·.job) =
      before.filterMap (·.job) ++ (w.job.toList ++ after.filterMap (·.job)) := by
  cases h : w.job <;> simp [h]

theorem publishing_assign {d : Dispatcher} {id : Nat} {w : Worker}
    (apart : (d.workers.map (·.id)).Nodup) (h : d.worker? id = some w) (job : Option Job) :
    ((d.assign id job).filterMap (·.job) ++ w.job.toList).Perm (d.publishing ++ job.toList) := by
  obtain ⟨before, after, hd, ha, -⟩ := worker?_split apart h
  classical
  rw [publishing, hd, ha, jobs_split, jobs_split, List.perm_iff_count]
  intro a
  simp only [List.count_append]
  omega

theorem publishing_quit {d : Dispatcher} {id : Nat} {w : Worker}
    (apart : (d.workers.map (·.id)).Nodup) (h : d.worker? id = some w) :
    ((d.quit id).publishing ++ w.job.toList).Perm d.publishing := by
  obtain ⟨before, after, hd, -, hq⟩ := worker?_split apart h
  classical
  rw [publishing, publishing, hd, hq, jobs_split, List.perm_iff_count]
  intro a
  simp only [List.filterMap_append, List.count_append]
  omega

theorem assign_ids (d : Dispatcher) (id : Nat) (job : Option Job) :
    (d.assign id job).map (·.id) = d.workers.map (·.id) := by
  rw [assign, List.map_map]
  apply List.map_congr_left
  intro w _
  by_cases h : w.id = id <;> simp [h]

theorem quit_ids (d : Dispatcher) (id : Nat) :
    ((d.quit id).workers.map (·.id)).Sublist (d.workers.map (·.id)) := by
  exact List.Sublist.map _ List.filter_sublist

theorem dismiss_ids (d : Dispatcher) (call : Nat) :
    (d.dismiss call).workers.map (·.id) = d.workers.map (·.id) := by
  simp [dismiss, Function.comp_def]

theorem dismiss_publishing (d : Dispatcher) (call : Nat) :
    (d.dismiss call).publishing = d.publishing := by
  simp [dismiss, publishing, List.filterMap_map]

/-! ## Places -/

structure Balanced (d : Dispatcher) : Prop where
  numbered : d.accepted.map (·.number) = List.range d.accepted.length
  inOrder : d.accepted = d.handed ++ d.queue
  kept : d.handed.Perm (d.publishing ++ (d.published ++ d.failed ++ d.cancelled))
  counted : d.unfinished = d.queue.length + d.publishing.length
  bounded : 0 < d.limit → d.queue.length ≤ d.limit
  apart : (d.workers.map (·.id)).Nodup
  known : ∀ id ∈ d.workers.map (·.id), id < d.hired

theorem Balanced.once {d : Dispatcher} (hd : d.Balanced) : d.accepted.Nodup := by
  apply List.Nodup.of_map (·.number)
  rw [hd.numbered]
  exact List.nodup_range

theorem balanced_create (workers limit : Int) : (create workers limit).Balanced := by
  constructor <;> simp [create, publishing]
  omega

/-- An event is done with: published, failed or cancelled. -/
theorem Balanced.done {d e : Dispatcher} (job : Job) (hd : d.Balanced)
    (left : (e.publishing ++ [job]).Perm d.publishing)
    (done : (e.published ++ e.failed ++ e.cancelled).Perm
      (d.published ++ d.failed ++ d.cancelled ++ [job]))
    (count : e.unfinished = d.unfinished - 1)
    (ids : (e.workers.map (·.id)).Sublist (d.workers.map (·.id)))
    (rest : e.accepted = d.accepted ∧ e.handed = d.handed ∧ e.queue = d.queue ∧ e.limit = d.limit ∧
      e.hired = d.hired) : e.Balanced := by
  classical
  obtain ⟨ha, hh, hq, hl, hi⟩ := rest
  refine ⟨?_, ?_, ?_, ?_, ?_, ?_, ?_⟩
  · rw [ha]; exact hd.numbered
  · rw [ha, hh, hq]; exact hd.inOrder
  · rw [hh, List.perm_iff_count]
    intro a
    have h₁ := left.count_eq a
    have h₂ := done.count_eq a
    have h₃ := hd.kept.count_eq a
    simp only [List.count_append] at h₁ h₂ h₃ ⊢
    omega
  · have h₁ := left.length_eq
    have h₂ := hd.counted
    simp only [List.length_append, List.length_singleton] at h₁
    rw [count, hq]
    omega
  · rw [hl, hq]; exact hd.bounded
  · exact hd.apart.sublist ids
  · intro id hid
    rw [hi]
    exact hd.known id (ids.subset hid)

theorem Balanced.hire {d : Dispatcher} (hd : d.Balanced) : d.hire.Balanced := by
  refine { hd with kept := ?_, counted := ?_, apart := ?_, known := ?_ }
  · simpa [Dispatcher.hire, publishing] using hd.kept
  · simpa [Dispatcher.hire, publishing] using hd.counted
  · have hold := hd.known
    simp only [Dispatcher.hire, List.map_append, List.map_map, Function.comp_def, List.map_id']
    refine List.nodup_append.mpr ⟨hd.apart, List.nodup_range', ?_⟩
    intro a ha b hb
    have := hold a ha
    have := (List.mem_range'_1.mp hb).1
    omega
  · intro id hid
    simp only [Dispatcher.hire, List.map_append, List.map_map, Function.comp_def, List.map_id',
      List.mem_append, List.mem_range'_1] at hid ⊢
    rcases hid with hid | hid
    · have := hd.known id hid
      omega
    · omega

theorem Balanced.enqueue {d : Dispatcher} (hd : d.Balanced) (h : ¬ d.Refuses) (topic : String) (payload : Json) :
    (d.enqueue topic payload).Balanced := by
  refine { hd with numbered := ?_, inOrder := ?_, counted := ?_, bounded := ?_ }
  · simp [Dispatcher.enqueue, hd.numbered, List.range_succ]
  · simp [Dispatcher.enqueue, hd.inOrder]
  · have := hd.counted
    simp only [Dispatcher.enqueue, publishing, List.length_append, List.length_singleton] at this ⊢
    omega
  · intro hl
    simp only [Refuses, not_or, not_and] at h
    have := h.2 hl
    simp only [Dispatcher.enqueue, List.length_append, List.length_singleton]
    omega

theorem Balanced.take {d : Dispatcher} {id : Nat} {w : Worker} {job : Job} {rest : List Job} (hd : d.Balanced)
    (hw : d.worker? id = some w) (idle : w.job = none) (hq : d.queue = job :: rest) :
    Balanced { d with queue := rest, workers := d.assign id (some job), handed := d.handed ++ [job] } := by
  classical
  have hp := publishing_assign hd.apart hw (some job)
  rw [idle] at hp
  refine { hd with inOrder := ?_, kept := ?_, counted := ?_, bounded := ?_, apart := ?_, known := ?_ }
  · rw [hd.inOrder, hq]; simp
  · rw [List.perm_iff_count]
    intro a
    have h₁ := hp.count_eq a
    have h₂ := hd.kept.count_eq a
    simp only [publishing, List.count_append, Option.toList, List.count_nil] at h₁ h₂ ⊢
    omega
  · have h₁ := hp.length_eq
    have h₂ := hd.counted
    simp only [hq, publishing, List.length_append, List.length_cons, Option.toList,
      List.length_nil] at h₁ h₂ ⊢
    omega
  · intro hl
    have := hd.bounded hl
    simp only [hq, List.length_cons] at this
    dsimp only
    omega
  · rw [assign_ids]; exact hd.apart
  · rw [assign_ids]; exact hd.known

/-- A worker has published its event, or has failed to. -/
theorem Balanced.freed {d : Dispatcher} {id : Nat} {w : Worker} {job : Job} {published failed : List Job}
    (hd : d.Balanced) (hw : d.worker? id = some w) (busy : w.job = some job)
    (done : (published ++ failed).Perm (d.published ++ d.failed ++ [job])) :
    Balanced { d.taskDone with workers := d.assign id none, published := published, failed := failed } := by
  classical
  refine hd.done job ?_ ?_ rfl ?_ ⟨rfl, rfl, rfl, rfl, rfl⟩
  · have hp := publishing_assign hd.apart hw none
    simpa [publishing, busy] using hp
  · rw [List.perm_iff_count]
    intro a
    have h := done.count_eq a
    simp only [taskDone, List.count_append] at h ⊢
    omega
  · rw [assign_ids]

theorem Balanced.quit {d : Dispatcher} {id : Nat} {w : Worker} (hd : d.Balanced) (hw : d.worker? id = some w)
    (idle : w.job = none) : (d.quit id).Balanced := by
  have hp := publishing_quit hd.apart hw
  simp only [idle, Option.toList, List.append_nil] at hp
  refine { hd with kept := ?_, counted := ?_, apart := ?_, known := ?_ }
  · exact hd.kept.trans (hp.symm.append_right _)
  · rw [hp.length_eq]; exact hd.counted
  · exact hd.apart.sublist (quit_ids d id)
  · intro i hi
    exact hd.known i ((quit_ids d id).subset hi)

theorem Balanced.dismiss {d : Dispatcher} (hd : d.Balanced) (call : Nat) : (d.dismiss call).Balanced := by
  refine { hd with kept := ?_, counted := ?_, apart := ?_, known := ?_ }
  · rw [dismiss_publishing]; exact hd.kept
  · rw [dismiss_publishing]; exact hd.counted
  · rw [dismiss_ids]; exact hd.apart
  · rw [dismiss_ids]; exact hd.known

theorem Balanced.turn {d e : Dispatcher} {m : Move} (h : Turn d m e) (hd : d.Balanced) : e.Balanced := by
  cases h with
  | rest => exact hd
  | hire => exact hd.hire
  | enqueue topic payload h => exact hd.enqueue h topic payload
  | take id hw idle hq => exact hd.take hw idle hq
  | succeed id hw busy =>
    refine hd.freed hw busy ?_
    rw [List.append_assoc, List.append_assoc]
    exact List.perm_append_comm.append_left _
  | fail id hw busy =>
    refine hd.freed hw busy ?_
    rw [List.append_assoc]
    exact List.Perm.refl _
  | quit id hw idle told => exact hd.quit hw idle
  | @abort w job id hw busy told =>
    refine hd.done job ?_ ?_ rfl (quit_ids d id) ⟨rfl, rfl, rfl, rfl, rfl⟩
    · have hp := publishing_quit hd.apart hw
      rw [busy] at hp
      exact hp
    · simp [Dispatcher.quit, taskDone]
  | stop => exact { hd with }
  | dismiss call hc waits => exact hd.dismiss call
  | finish call hc gone => exact { hd with }

/-! ## Calls of stop -/

/-- Calls of stop are told apart, and a worker that was told to end is waited for by the call that told
it so. -/
structure Orderly (d : Dispatcher) : Prop where
  calls : (d.stops.map (·.1)).Nodup
  before : ∀ call ∈ d.stops.map (·.1), call < d.asked
  awaited : ∀ w ∈ d.workers, w.dismissed = true →
    ∃ call ids, (call, Halt.ending ids) ∈ d.stops ∧ w.id ∈ ids

theorem orderly_create (workers limit : Int) : (create workers limit).Orderly := by
  constructor <;> simp [create]

theorem mem_of_halt? {d : Dispatcher} {call : Nat} {h : Halt} (hc : d.halt? call = some h) :
    (call, h) ∈ d.stops := by
  obtain ⟨before, after, hs, -⟩ := List.lookup_eq_some_iff.mp hc
  rw [hs]
  simp

theorem mem_taskDone {d : Dispatcher} {call : Nat} {ids : List Nat}
    (h : (call, Halt.ending ids) ∈ d.stops) : (call, Halt.ending ids) ∈ d.taskDone.stops := by
  unfold taskDone
  split
  · exact List.mem_map.mpr ⟨_, h, rfl⟩
  · exact h

theorem taskDone_calls (d : Dispatcher) : d.taskDone.stops.map (·.1) = d.stops.map (·.1) := by
  unfold taskDone
  split <;> simp [Function.comp_def]

theorem dismiss_calls (d : Dispatcher) (call : Nat) :
    (d.dismiss call).stops.map (·.1) = d.stops.map (·.1) := by
  simp only [dismiss, List.map_map]
  apply List.map_congr_left
  intro c _
  by_cases h : c.1 = call <;> simp [h]

/-- Two entries of one call are the same. -/
theorem Orderly.same {d : Dispatcher} (hd : d.Orderly) {call : Nat} {h h' : Halt}
    (m : (call, h) ∈ d.stops) (m' : (call, h') ∈ d.stops) : h = h' := by
  have := List.inj_on_of_nodup_map hd.calls m m' rfl
  exact congrArg Prod.snd this

theorem mem_assign {d : Dispatcher} {id : Nat} {job : Option Job} {v : Worker} (hv : v ∈ d.assign id job) :
    ∃ w ∈ d.workers, w.id = v.id ∧ w.dismissed = v.dismissed := by
  obtain ⟨w, hw, rfl⟩ := List.mem_map.mp hv
  refine ⟨w, hw, ?_⟩
  by_cases h : w.id = id <;> simp [h]

/-- Workers neither come nor are told to end, and calls of stop go on waiting for them. -/
theorem Orderly.stays {d e : Dispatcher} (hd : d.Orderly)
    (calls : e.stops.map (·.1) = d.stops.map (·.1)) (asked : e.asked = d.asked)
    (waits : ∀ call ids, (call, Halt.ending ids) ∈ d.stops → (call, Halt.ending ids) ∈ e.stops)
    (workers : ∀ v ∈ e.workers, ∃ w ∈ d.workers, w.id = v.id ∧ w.dismissed = v.dismissed) :
    e.Orderly := by
  refine ⟨?_, ?_, ?_⟩
  · rw [calls]; exact hd.calls
  · rw [calls, asked]; exact hd.before
  · intro v hv told
    obtain ⟨w, hw, hid, hdis⟩ := workers v hv
    obtain ⟨call, ids, hc, hm⟩ := hd.awaited w hw (hdis.trans told)
    exact ⟨call, ids, waits call ids hc, hid ▸ hm⟩

theorem Orderly.stop {d : Dispatcher} (hd : d.Orderly) (halt : Halt) :
    Orderly { d with stops := d.stops ++ [(d.asked, halt)], asked := d.asked + 1 } := by
  refine ⟨?_, ?_, ?_⟩
  · rw [List.map_append, List.nodup_append]
    refine ⟨hd.calls, by simp, ?_⟩
    intro a ha b hb
    have := hd.before a ha
    simp only [List.map_cons, List.map_nil, List.mem_singleton] at hb
    omega
  · intro call hc
    simp only [List.map_append, List.mem_append, List.map_cons, List.map_nil,
      List.mem_singleton] at hc ⊢
    rcases hc with hc | hc
    · have := hd.before call hc
      omega
    · omega
  · intro w hw told
    obtain ⟨call, ids, hc, hm⟩ := hd.awaited w hw told
    exact ⟨call, ids, List.mem_append_left _ hc, hm⟩

theorem Orderly.dismiss {d : Dispatcher} (hd : d.Orderly) {call : Nat} {h : Halt} (hc : d.halt? call = some h)
    (waits : ∀ ids, h ≠ .ending ids) : (d.dismiss call).Orderly := by
  have hmem := mem_of_halt? hc
  refine ⟨?_, ?_, ?_⟩
  · rw [dismiss_calls]; exact hd.calls
  · rw [dismiss_calls]; exact hd.before
  · intro v hv told
    obtain ⟨w, hw, rfl⟩ := List.mem_map.mp hv
    by_cases old : w.dismissed = true
    · -- another call waits for it, since this one has not told anybody yet
      obtain ⟨other, ids, ho, hm⟩ := hd.awaited w hw old
      have : other ≠ call := by
        intro e
        exact waits ids (hd.same hmem (e ▸ ho))
      exact ⟨other, ids, List.mem_map.mpr ⟨_, ho, by simp [this]⟩, hm⟩
    · refine ⟨call, d.tracked, List.mem_map.mpr ⟨_, hmem, by simp⟩, ?_⟩
      simpa [old] using told

theorem Orderly.finish {d : Dispatcher} (hd : d.Orderly) {call : Nat} {ids : List Nat}
    (hc : d.halt? call = some (.ending ids)) (gone : ∀ w ∈ d.workers, w.id ∉ ids) :
    Orderly { d with tracked := [], stops := d.stops.filter (·.1 != call) } := by
  have hmem := mem_of_halt? hc
  refine ⟨?_, ?_, ?_⟩
  · exact hd.calls.sublist (List.Sublist.map _ List.filter_sublist)
  · intro i hi
    exact hd.before i ((List.Sublist.map _ List.filter_sublist).subset hi)
  · intro w hw told
    obtain ⟨other, ids, ho, hm⟩ := hd.awaited w hw told
    have : other ≠ call := by
      intro e
      cases hd.same hmem (e ▸ ho)
      exact gone w hw hm
    exact ⟨other, ids, List.mem_filter.mpr ⟨ho, by simpa using this⟩, hm⟩

theorem Orderly.turn {d e : Dispatcher} {m : Move} (h : Turn d m e) (hd : d.Orderly) : e.Orderly := by
  cases h with
  | rest => exact hd
  | hire =>
    refine { hd with awaited := ?_ }
    intro w hw told
    simp only [hire, List.mem_append, List.mem_map] at hw
    rcases hw with hw | ⟨id, -, rfl⟩
    · exact hd.awaited w hw told
    · cases told
  | enqueue topic payload h => exact { hd with }
  | take id hw idle hq => exact hd.stays rfl rfl (fun _ _ h => h) fun v hv => mem_assign hv
  | succeed id hw busy =>
    exact hd.stays (taskDone_calls d) rfl (fun _ _ h => mem_taskDone h) fun v hv => mem_assign hv
  | fail id hw busy =>
    exact hd.stays (taskDone_calls d) rfl (fun _ _ h => mem_taskDone h) fun v hv => mem_assign hv
  | quit id hw idle told =>
    exact hd.stays rfl rfl (fun _ _ h => h) fun v hv => ⟨v, (List.mem_filter.mp hv).1, rfl, rfl⟩
  | abort id hw busy told =>
    exact hd.stays (taskDone_calls d) rfl (fun _ _ h => mem_taskDone h)
      fun v hv => ⟨v, (List.mem_filter.mp hv).1, rfl, rfl⟩
  | stop => exact hd.stop _
  | dismiss call hc waits => exact hd.dismiss hc waits
  | finish call hc gone => exact hd.finish hc gone

/-! ## Drains -/

/-- Who goes on with a stop is the only one whose wait is over. -/
theorem mem_dismiss_stops {d : Dispatcher} {call other : Nat} {halt : Halt}
    (h : (other, halt) ∈ (d.dismiss call).stops) (waits : ∀ ids, halt ≠ .ending ids) : (other, halt) ∈ d.stops := by
  obtain ⟨c, hc, e⟩ := List.mem_map.mp h
  by_cases same : c.1 = call
  · simp only [same, beq_self_eq_true, if_true, Prod.mk.injEq] at e
    exact absurd e.2.symm (waits d.tracked)
  · simp only [beq_iff_eq, same, if_false] at e
    exact e ▸ hc

/-- If a call of stop has seen the end of all work, there has been none since. -/
def Drains (call : Nat) (d : Dispatcher) : Prop := (call, Halt.drained) ∈ d.stops → d.unfinished = 0

theorem Drains.taskDone {call : Nat} {d : Dispatcher} (hd : Drains call d) : Drains call d.taskDone := by
  intro h
  by_cases last : d.unfinished = 1
  · simp [Dispatcher.taskDone, last]
  · simp only [Dispatcher.taskDone, last, if_false] at h ⊢
    have := hd h
    omega

theorem Drains.turn {call : Nat} {d e : Dispatcher} {m : Move} (h : Turn d m e)
    (quiet : ∀ topic payload, m ≠ .dispatch topic payload) (hd : Drains call d) : Drains call e := by
  cases h with
  | enqueue topic payload h => exact absurd rfl (quiet topic payload)
  | rest | hire | take | quit => exact hd
  | succeed id hw busy => exact hd.taskDone
  | fail id hw busy => exact hd.taskDone
  | abort id hw busy told => exact hd.taskDone
  | stop =>
    intro h
    rcases List.mem_append.mp h with h | h
    · exact hd h
    · by_cases none : d.unfinished = 0
      · exact none
      · simp [none] at h
  | dismiss other hc waits =>
    intro h
    exact hd (mem_dismiss_stops h (by simp))
  | finish other hc gone =>
    intro h
    exact hd (List.mem_filter.mp h).1

/-- A call of stop that still waits has something to wait for. -/
def Waits (d : Dispatcher) : Prop := ∀ call, (call, Halt.draining) ∈ d.stops → d.unfinished ≠ 0

theorem Waits.taskDone {d : Dispatcher} (hd : Waits d) : Waits d.taskDone := by
  intro call h
  by_cases last : d.unfinished = 1
  · -- the last event is done with, so nobody is left who waits
    simp only [Dispatcher.taskDone, last, if_true] at h
    obtain ⟨c, -, e⟩ := List.mem_map.mp h
    have : c.2.release = Halt.draining := congrArg Prod.snd e
    cases hc : c.2 <;> rw [hc] at this <;> cases this
  · simp only [Dispatcher.taskDone, last, if_false] at h ⊢
    have := hd call h
    omega

theorem Waits.turn {d e : Dispatcher} {m : Move} (h : Turn d m e) (hd : Waits d) : Waits e := by
  cases h with
  | rest | hire | take | quit => exact hd
  | enqueue topic payload h => exact fun _ _ => Nat.succ_ne_zero _
  | succeed id hw busy => exact hd.taskDone
  | fail id hw busy => exact hd.taskDone
  | abort id hw busy told => exact hd.taskDone
  | stop =>
    intro call h
    rcases List.mem_append.mp h with h | h
    · exact hd call h
    · -- it waits only if it was asked while events were unfinished
      have : call = d.asked ∧ d.unfinished ≠ 0 := by simpa using h
      exact this.2
  | dismiss other hc waits =>
    intro call h
    exact hd call (mem_dismiss_stops h (by simp))
  | finish other hc gone =>
    intro call h
    exact hd call (List.mem_filter.mp h).1

theorem accepted_turn {d e : Dispatcher} {m : Move} (h : Turn d m e)
    (quiet : ∀ topic payload, m ≠ .dispatch topic payload) : e.accepted = d.accepted := by
  cases h with
  | enqueue topic payload h => exact absurd rfl (quiet topic payload)
  | _ => rfl

theorem limit_turn {d e : Dispatcher} {m : Move} (h : Turn d m e) : e.limit = d.limit := by
  cases h <;> rfl

theorem size_turn {d e : Dispatcher} {m : Move} (h : Turn d m e) : e.size = d.size := by
  cases h <;> rfl

/-! ## Single moves -/

theorem step_dispatch_refused {d : Dispatcher} (h : d.Refuses) (topic : String) (payload : Json) :
    ∃ line, d.step (.dispatch topic payload) = some (d, [line]) := by
  unfold step
  by_cases stopped : d.running = false
  · exact ⟨⟨.warning, "Event dispatcher not running, dropping " ++ topic ++ " event"⟩, by simp [stopped]⟩
  · have full : d.isFull = true := ((refuses_iff d).mp h).resolve_left stopped
    exact ⟨⟨.warning, "Event queue full, dropping " ++ topic ++ " event"⟩, by simp_all⟩

theorem step_dispatch_accepted {d : Dispatcher} (h : ¬ d.Refuses) (topic : String) (payload : Json) :
    d.step (.dispatch topic payload) = some (d.enqueue topic payload, []) := by
  rw [refuses_iff] at h
  simp_all [step]

theorem find?_assign (d : Dispatcher) (id : Nat) (job : Option Job) (v : Nat) :
    (d.assign id job).find? (·.id == v) =
      (d.worker? v).map fun w => if w.id == id then { w with job := job } else w := by
  rw [assign, List.find?_map, worker?]
  congr 2
  funext w
  by_cases h : w.id = id <;> simp [h]

theorem worker?_id {d : Dispatcher} {id : Nat} {w : Worker} (h : d.worker? id = some w) : w.id = id := by
  simpa using List.find?_some h

/-- One worker, which was not told to end, exchanges what it publishes, and no other worker changes. -/
structure Shifts (d e : Dispatcher) (id : Nat) (before after : Option Job) : Prop where
  had : d.worker? id = some ⟨id, before, false⟩
  has : e.worker? id = some ⟨id, after, false⟩
  others : ∀ v, v ≠ id → e.worker? v = d.worker? v

theorem shifts_assign {d e : Dispatcher} {id : Nat} {before after : Option Job}
    (hw : d.worker? id = some ⟨id, before, false⟩) (he : e.workers = d.assign id after) :
    Shifts d e id before after := by
  have hfind : ∀ v, e.worker? v = (d.worker? v).map fun w => if w.id == id then { w with job := after } else w := by
    intro v
    rw [worker?, he, find?_assign]
  refine ⟨hw, by simp [hfind, hw], ?_⟩
  intro v hv
  rw [hfind]
  cases hw' : d.worker? v with
  | none => rfl
  | some w =>
    have := worker?_id hw'
    simp [this, hv]

theorem step_take {d e : Dispatcher} {id : Nat} {lines : List LogLine}
    (h : d.step (.take id) = some (e, lines)) :
    ∃ job rest, d.queue = job :: rest ∧ Shifts d e id none (some job) ∧
      e = { d with queue := rest, workers := e.workers, handed := d.handed ++ [job] } := by
  simp only [step] at h
  split at h <;> cases h
  rename_i i job rest hw hq
  cases worker?_id hw
  exact ⟨job, rest, hq, shifts_assign hw rfl, rfl⟩

theorem step_succeed {d e : Dispatcher} {id : Nat} {lines : List LogLine}
    (h : d.step (.succeed id) = some (e, lines)) :
    ∃ job, Shifts d e id (some job) none ∧
      e = { d with
        unfinished := d.unfinished - 1
        stops := e.stops
        workers := e.workers
        published := d.published ++ [job] } := by
  simp only [step] at h
  split at h <;> cases h
  rename_i i job hw
  cases worker?_id hw
  exact ⟨job, shifts_assign hw rfl, rfl⟩

theorem step_fail {d e : Dispatcher} {id : Nat} {lines : List LogLine}
    (h : d.step (.fail id) = some (e, lines)) :
    ∃ job, Shifts d e id (some job) none ∧
      e = { d with
        unfinished := d.unfinished - 1
        stops := e.stops
        workers := e.workers
        failed := d.failed ++ [job] } := by
  simp only [step] at h
  split at h <;> cases h
  rename_i i job hw
  cases worker?_id hw
  exact ⟨job, shifts_assign hw rfl, rfl⟩

/-- A worker that waits and was not told to end can take an event, and one that publishes can get done with it. -/
theorem step_enabled {d : Dispatcher} {id : Nat} {job : Option Job} (hw : d.worker? id = some ⟨id, job, false⟩) :
    ((d.step (.take id)).isSome ↔ job = none ∧ d.queue ≠ []) ∧
      ((d.step (.succeed id)).isSome ↔ job ≠ none) ∧ ((d.step (.fail id)).isSome ↔ job ≠ none) := by
  simp only [step, hw]
  refine ⟨?_, ?_, ?_⟩
  · cases job <;> cases d.queue <;> simp
  · cases job <;> simp
  · cases job <;> simp

theorem worker?_quit (d : Dispatcher) (id v : Nat) :
    (d.quit id).worker? v = if v = id then none else d.worker? v := by
  rw [worker?, quit, List.find?_filter]
  by_cases h : v = id
  · rw [if_pos h, List.find?_eq_none]
    intro w _
    simp [h]
  · rw [if_neg h, worker?]
    congr 1
    funext w
    by_cases hw : w.id = v <;> simp [hw, h]

theorem step_leave {d e : Dispatcher} (hd : d.Orderly) {id : Nat} {lines : List LogLine}
    (h : d.step (.leave id) = some (e, lines)) :
    ∃ job, d.worker? id = some ⟨id, job, true⟩ ∧ (∃ call ids, (call, Halt.ending ids) ∈ d.stops ∧ id ∈ ids) ∧
      (∀ v, e.worker? v = if v = id then none else d.worker? v) ∧
      e = { d with
        unfinished := d.unfinished - job.toList.length
        stops := e.stops
        workers := e.workers
        cancelled := d.cancelled ++ job.toList } := by
  have awaited : ∀ w, d.worker? id = some w → w.dismissed = true →
      ∃ call ids, (call, Halt.ending ids) ∈ d.stops ∧ id ∈ ids := by
    intro w hw told
    obtain ⟨call, ids, hc, hm⟩ := hd.awaited w (List.mem_of_find?_eq_some hw) told
    exact ⟨call, ids, hc, worker?_id hw ▸ hm⟩
  simp only [step] at h
  split at h <;> cases h
  · rename_i i hw
    cases worker?_id hw
    refine ⟨none, hw, awaited _ hw rfl, worker?_quit d _, ?_⟩
    simp [quit]
  · rename_i i job hw
    cases worker?_id hw
    exact ⟨some job, hw, awaited _ hw rfl, worker?_quit d _, rfl⟩

theorem step_start_running {d : Dispatcher} (h : d.running = true) :
    ∃ line, d.step .start = some (d, [line]) :=
  ⟨⟨.warning, "Event dispatcher already running"⟩, by simp only [step]; rw [if_pos h]⟩

def IsTeam (workers : List Worker) : Prop := ∀ w ∈ workers, w.job = none ∧ w.dismissed = false

theorem step_start_stopped {d : Dispatcher} (h : d.running = false) :
    ∃ e line team, d.step .start = some (e, [line]) ∧ IsTeam team ∧ team.length = d.size ∧
      e = { d with
        running := true
        workers := d.workers ++ team
        tracked := team.map (·.id)
        hired := e.hired } := by
  let team := (List.range' d.hired d.size).map fun id => Worker.mk id none false
  refine ⟨d.hire, ⟨.info, "Event dispatcher started with " ++ toString d.size ++ " workers"⟩, team, ?_, ?_, ?_, ?_⟩
  · simp [step, h]
  · intro w hw
    obtain ⟨id, -, rfl⟩ := List.mem_map.mp hw
    exact ⟨rfl, rfl⟩
  · simp [team]
  · have hids : team.map (·.id) = List.range' d.hired d.size := by simp [team, Function.comp_def]
    rw [hids]
    rfl

/-- A call of stop enters its second half: it tells the tracked workers to end, and offers are turned away. -/
theorem step_dismiss {d e : Dispatcher} {m : Move} {call : Nat} (hm : m = .drained call ∨ m = .giveUp call)
    {lines : List LogLine} (h : d.step m = some (e, lines)) :
    (∀ v, e.worker? v =
      (d.worker? v).map fun w => { w with dismissed := w.dismissed || d.tracked.contains v }) ∧
    e.halt? call = some (.ending d.tracked) ∧
    e = { d with running := false, stops := e.stops, workers := e.workers } := by
  obtain ⟨halt, hhalt, he⟩ : ∃ halt, d.halt? call = some halt ∧ e = d.dismiss call := by
    rcases hm with rfl | rfl <;> simp only [step] at h <;> split at h <;> cases h <;> exact ⟨_, ‹_›, rfl⟩
  rw [he]
  refine ⟨fun v => ?_, ?_, rfl⟩
  · rw [worker?, dismiss, List.find?_map]
    cases hw : d.worker? v with
    | none =>
      rw [worker?] at hw
      simp only [Function.comp_def, hw, Option.map_none]
    | some w =>
      have hid := worker?_id hw
      rw [worker?] at hw
      simp only [Function.comp_def, hw, Option.map_some, hid]
  · obtain ⟨before, after, hs, hb⟩ := List.lookup_eq_some_iff.mp hhalt
    rw [halt?, List.lookup_eq_some_iff]
    refine ⟨before, after.map fun c => if c.1 == call then (c.1, .ending d.tracked) else c, ?_, hb⟩
    have keep : before.map (fun c => if c.1 == call then (c.1, Halt.ending d.tracked) else c) = before := by
      rw [List.map_congr_left (g := fun c => c) (fun c hc => by simp [Ne.symm (by simpa using hb c hc)]),
        List.map_id']
    simp only [dismiss, hs, List.map_append, List.map_cons, keep, beq_self_eq_true, if_true]

theorem step_finish {d e : Dispatcher} {call : Nat} {lines : List LogLine}
    (h : d.step (.finish call) = some (e, lines)) :
    ∃ ids, d.halt? call = some (.ending ids) ∧ (∀ w ∈ d.workers, w.id ∉ ids) ∧
      e = { d with tracked := [], stops := e.stops } := by
  simp only [step] at h
  split at h
  · split at h <;> cases h
    rename_i ids hc all
    exact ⟨ids, hc, fun w hw => by simpa using List.all_eq_true.mp all w hw, rfl⟩
  · cases h

theorem step_stop_called {d : Dispatcher} (ho : d.Orderly) :
    ∃ e, d.step .stop = some (e, []) ∧ e = { d with stops := e.stops, asked := e.asked } ∧
      (d.running = true → e.halt? d.asked = some (if d.unfinished = 0 then .drained else .draining)) ∧
      (d.running = false → e = d) := by
  by_cases running : d.running = true
  · refine ⟨_, if_pos running, rfl, fun _ => ?_, fun stopped => by simp [stopped] at running⟩
    have fresh : ∀ c ∈ d.stops, (d.asked == c.1) = false := by
      intro c hc
      have := ho.before c.1 (List.mem_map_of_mem hc)
      simpa using (Nat.ne_of_lt this).symm
    rw [halt?, List.lookup_eq_some_iff]
    exact ⟨d.stops, [], rfl, fun c hc => by simpa using fresh c hc⟩
  · exact ⟨d, if_neg running, rfl, fun h => absurd h running, fun _ => rfl⟩

/-- Who has drained can go on, and who waits for too long as well. -/
theorem step_resumes (d : Dispatcher) (call : Nat) :
    (d.halt? call = some .drained → (d.step (.drained call)).isSome) ∧
      (d.halt? call = some .draining ∨ d.halt? call = some .drained → (d.step (.giveUp call)).isSome) := by
  refine ⟨fun h => ?_, fun h => ?_⟩
  · simp [step, h]
  · rcases h with h | h <;> simp [step, h]

theorem cancelled_turn {d e : Dispatcher} {m : Move} (h : Turn d m e) :
    e.cancelled = d.cancelled ∨ ∃ id, m = .leave id := by
  cases h with
  | abort id hw busy told => exact .inr ⟨id, rfl⟩
  | _ => exact .inl rfl

theorem step_stop {d s : Dispatcher} (ho : d.Orderly) (running : d.running = true) {lines : List LogLine}
    (h : d.step .stop = some (s, lines)) : s.accepted = d.accepted ∧ Drains d.asked s := by
  simp only [step, running, if_true, Option.some.injEq, Prod.mk.injEq] at h
  rw [← h.1]
  refine ⟨rfl, ?_⟩
  intro seen
  rcases List.mem_append.mp seen with old | new
  · have := ho.before _ (List.mem_map.mpr ⟨_, old, rfl⟩)
    exact absurd this (Nat.lt_irrefl _)
  · by_cases none : d.unfinished = 0
    · exact none
    · simp [none] at new

/-- With no offer after a stop was called, its drain leaves nothing behind that was not handed over. -/
theorem drained_handed {d s e : Dispatcher} {later : List Move} {lines lines' : List LogLine}
    (hb : d.Balanced) (ho : d.Orderly) (running : d.running = true)
    (called : d.step .stop = some (s, lines))
    (quiet : ∀ m ∈ later, ∀ topic payload, m ≠ .dispatch topic payload)
    (drained : (s.run later).1.step (.drained d.asked) = some (e, lines')) :
    e.handed = d.accepted := by
  obtain ⟨hs, hdrains⟩ := step_stop ho running called
  let r := (s.run later).1
  have balanced : r.Balanced :=
    run_preserves (fun _ _ _ _ t h => h.turn t) (hb.turn (step_turn called))
  have drains : Drains d.asked r := run_preserves (fun m hm _ _ t h => h.turn t (quiet m hm)) hdrains
  have accepted : r.accepted = d.accepted :=
    run_preserves (I := fun e => e.accepted = d.accepted)
      (fun m hm _ _ t h => (accepted_turn t (quiet m hm)).trans h) hs
  simp only [step] at drained
  split at drained <;> cases drained
  rename_i hc
  have none : r.unfinished = 0 := drains (mem_of_halt? hc)
  have empty : r.queue = [] := by
    have := balanced.counted
    exact List.length_eq_zero_iff.mp (by omega)
  have := balanced.inOrder
  rw [empty, List.append_nil, accepted] at this
  exact this.symm

/-! ## Runs -/

/-- What callers may rely on: where all events are, and what each move does to them. -/
structure Reliable (d : Dispatcher) : Prop where
  /-- Every accepted event is in exactly one place. -/
  placed : d.accepted.Perm (d.queue ++ d.publishing ++ (d.published ++ d.failed ++ d.cancelled))
  once : d.accepted.Nodup
  /-- No two workers are the same, so each event that is being published has one of its own. -/
  apart : (d.workers.map (·.id)).Nodup
  /-- Events are handed over in the order in which they were accepted. -/
  inOrder : d.accepted = d.handed ++ d.queue
  handedOnce : d.handed.Nodup
  counted : d.unfinished = d.queue.length + d.publishing.length
  refuses : d.Refuses → ∀ topic payload, ∃ line, d.step (.dispatch topic payload) = some (d, [line])
  accepts : ¬ d.Refuses → ∀ topic payload, d.step (.dispatch topic payload) =
    some ({ d with
      queue := d.queue ++ [⟨d.accepted.length, topic, payload⟩]
      unfinished := d.unfinished + 1
      accepted := d.accepted ++ [⟨d.accepted.length, topic, payload⟩] }, [])
  /-- The first event in the queue goes to a worker that waits. -/
  takes : ∀ id e lines, d.step (.take id) = some (e, lines) →
    ∃ job rest, d.queue = job :: rest ∧ Shifts d e id none (some job) ∧
      e = { d with queue := rest, workers := e.workers, handed := d.handed ++ [job] }
  succeeds : ∀ id e lines, d.step (.succeed id) = some (e, lines) →
    ∃ job, Shifts d e id (some job) none ∧
      e = { d with
        unfinished := d.unfinished - 1
        stops := e.stops
        workers := e.workers
        published := d.published ++ [job] }
  /-- A failure frees its worker as a success does. -/
  fails : ∀ id e lines, d.step (.fail id) = some (e, lines) →
    ∃ job, Shifts d e id (some job) none ∧
      e = { d with
        unfinished := d.unfinished - 1
        stops := e.stops
        workers := e.workers
        failed := d.failed ++ [job] }
  /-- No worker is stuck: it can take an event if there is one, and get done with it either way. -/
  works : ∀ id job, d.worker? id = some ⟨id, job, false⟩ →
    ((d.step (.take id)).isSome ↔ job = none ∧ d.queue ≠ []) ∧
      ((d.step (.succeed id)).isSome ↔ job ≠ none) ∧ ((d.step (.fail id)).isSome ↔ job ≠ none)
  /-- A worker ends if a stop waits for it, and gives up its event. -/
  leaves : ∀ id e lines, d.step (.leave id) = some (e, lines) →
    ∃ job, d.worker? id = some ⟨id, job, true⟩ ∧ (∃ call ids, (call, Halt.ending ids) ∈ d.stops ∧ id ∈ ids) ∧
      (∀ v, e.worker? v = if v = id then none else d.worker? v) ∧
      e = { d with
        unfinished := d.unfinished - job.toList.length
        stops := e.stops
        workers := e.workers
        cancelled := d.cancelled ++ job.toList }
  /-- Nothing else cancels an event. -/
  cancels : ∀ m e lines, d.step m = some (e, lines) → e.cancelled = d.cancelled ∨ ∃ id, m = .leave id
  /-- A start while running makes no worker. -/
  ignores : d.running = true → ∃ line, d.step .start = some (d, [line])
  /-- Another start makes as many workers as were asked for, and leaves the queue as it is. -/
  starts : d.running = false → ∃ e line team, d.step .start = some (e, [line]) ∧ IsTeam team ∧
    team.length = d.size ∧
    e = { d with
      running := true
      workers := d.workers ++ team
      tracked := team.map (·.id)
      hired := e.hired }
  /-- A call of stop waits if there is anything to wait for, and does nothing if the dispatcher has stopped. -/
  halts : ∃ e, d.step .stop = some (e, []) ∧ e = { d with stops := e.stops, asked := e.asked } ∧
    (d.running = true → e.halt? d.asked = some (if d.unfinished = 0 then .drained else .draining)) ∧
    (d.running = false → e = d)
  waits : ∀ call, (call, Halt.draining) ∈ d.stops → d.unfinished ≠ 0
  /-- Drained or out of time, it can go on. -/
  resumes : ∀ call, (d.halt? call = some .drained → (d.step (.drained call)).isSome) ∧
    (d.halt? call = some .draining ∨ d.halt? call = some .drained → (d.step (.giveUp call)).isSome)
  /-- It then tells the tracked workers to end. -/
  dismisses : ∀ m call e lines, m = .drained call ∨ m = .giveUp call → d.step m = some (e, lines) →
    (∀ v, e.worker? v =
      (d.worker? v).map fun w => { w with dismissed := w.dismissed || d.tracked.contains v }) ∧
    e.halt? call = some (.ending d.tracked) ∧
    e = { d with running := false, stops := e.stops, workers := e.workers }
  /-- It comes back once they have ended. -/
  finishes : ∀ call e lines, d.step (.finish call) = some (e, lines) →
    ∃ ids, d.halt? call = some (.ending ids) ∧ (∀ w ∈ d.workers, w.id ∉ ids) ∧
      e = { d with tracked := [], stops := e.stops }
  /-- A stop whose drain completes, with no offer since, leaves nothing behind. -/
  drains : d.running = true → ∀ s lines, d.step .stop = some (s, lines) →
    ∀ later, (∀ m ∈ later, ∀ topic payload, m ≠ .dispatch topic payload) →
    ∀ e lines, (s.run later).1.step (.drained d.asked) = some (e, lines) → e.handed = d.accepted

/-- **No event is lost and none is published twice.** However starts, offers, stops and the moves of the workers
follow each other, each offer is either turned away or put in the queue, and an accepted event is in one place
from then on. -/
theorem run_reliable (workers limit : Int) (moves : List Move) :
    ((create workers limit).run moves).1.limit = limit ∧
      ((create workers limit).run moves).1.size = (max 1 workers).toNat ∧
      ((create workers limit).run moves).1.Reliable := by
  let d := ((create workers limit).run moves).1
  have balanced : d.Balanced :=
    run_preserves (fun _ _ _ _ t h => h.turn t) (balanced_create workers limit)
  have orderly : d.Orderly :=
    run_preserves (fun _ _ _ _ t h => h.turn t) (orderly_create workers limit)
  refine ⟨run_preserves (I := fun e => e.limit = limit) (fun _ _ _ _ t h => (limit_turn t).trans h) rfl,
    run_preserves (I := fun e => e.size = (max 1 workers).toNat) (fun _ _ _ _ t h => (size_turn t).trans h) rfl, ?_⟩
  constructor
  case placed =>
    rw [balanced.inOrder, List.append_assoc]
    exact List.perm_append_comm.trans (balanced.kept.append_left _)
  case once => exact balanced.once
  case apart => exact balanced.apart
  case inOrder => exact balanced.inOrder
  case handedOnce =>
    have := balanced.once
    rw [balanced.inOrder] at this
    exact (List.nodup_append.mp this).1
  case counted => exact balanced.counted
  case refuses => exact step_dispatch_refused
  case accepts => exact step_dispatch_accepted
  case takes => exact fun id e lines => step_take
  case succeeds => exact fun id e lines => step_succeed
  case fails => exact fun id e lines => step_fail
  case works => exact fun id job => step_enabled
  case leaves => exact fun id e lines => step_leave orderly
  case cancels => exact fun m e lines h => cancelled_turn (step_turn h)
  case ignores => exact step_start_running
  case starts => exact step_start_stopped
  case halts => exact step_stop_called orderly
  case waits =>
    have waits : Waits d := run_preserves (fun _ _ _ _ t h => h.turn t) (fun call h => by cases h)
    exact waits
  case resumes => exact step_resumes d
  case dismisses => exact fun m call e lines hm h => step_dismiss hm h
  case finishes => exact fun call e lines => step_finish
  case drains =>
    intro running s lines called later quiet e lines' drained
    exact drained_handed balanced orderly running called quiet drained

/-- One event is published and one fails; a third does not answer and is given up, and what was queued behind it
waits for the next start. -/
theorem published_failed_cancelled_queued :
    let d := ((create 2 5).run [.start, .dispatch "user.created" .null, .dispatch "user.login" .null,
      .dispatch "user.updated" .null, .dispatch "user.deleted" .null, .take 1, .take 0, .fail 0, .succeed 1,
      .take 0, .stop, .giveUp 0, .leave 0, .leave 1, .finish 0, .start]).1
    d.Reliable ∧ d.size = 2 ∧ d.limit = 5 ∧ d.published.map (·.topic) = ["user.created"] ∧
      d.failed.map (·.topic) = ["user.login"] ∧ d.cancelled.map (·.topic) = ["user.updated"] ∧
      d.queue.map (·.topic) = ["user.deleted"] ∧ d.unfinished = 1 ∧ d.tracked = [2, 3] := by
  intro d
  obtain ⟨hlimit, hsize, hreliable⟩ := run_reliable 2 5
    [.start, .dispatch "user.created" .null, .dispatch "user.login" .null,
      .dispatch "user.updated" .null, .dispatch "user.deleted" .null, .take 1, .take 0, .fail 0, .succeed 1,
      .take 0, .stop, .giveUp 0, .leave 0, .leave 1, .finish 0, .start]
  exact ⟨hreliable, hsize, hlimit, by decide, by decide, by decide, by decide, by decide, by decide⟩

end Gatehouse.Dispatcher
