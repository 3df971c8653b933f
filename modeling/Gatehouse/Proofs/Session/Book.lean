import Gatehouse.Proofs.Session.Cache
import Mathlib.Data.Set.Card

/-!
# Sessions as a map

The cache keeps the session of a pair under one flat key and finds the sessions of a user by a pattern.
Seen from its calls it is a plain map from pairs to payloads that expire.
-/

namespace Gatehouse

open Run SessionCache

/-! ## Calls -/

inductive SessionCall where
  | store (user : Uuid) (cacheKey payload : String) (lifetime : Int)
  | fetch (user : Uuid) (cacheKey : String)
  | delete (user : Uuid) (cacheKey : String)
  | invalidateAll (user : Uuid)
  | wait (time : Nat)

inductive SessionReply where
  | done
  | payload (text : String)
  | removed (count : Nat)

namespace SessionCall

def run : SessionCall → Run SessionReply
  | store user cacheKey payload lifetime => do
    SessionCache.store user.text cacheKey payload lifetime
    return .done
  | fetch user cacheKey => do
    let payload ← SessionCache.fetch user.text cacheKey
    return .payload payload
  | delete user cacheKey => do
    SessionCache.delete user.text cacheKey
    return .done
  | invalidateAll user => do
    let count ← SessionCache.invalidateAll user.text
    return .removed count
  | wait time => do
    modify fun s => { s with now := s.now + time }
    return .done

def replies (s : Service) : List SessionCall → List (Except Failure SessionReply)
  | [] => []
  | call :: calls => (call.run.exec s).1 :: replies (call.run.exec s).2 calls

def after (s : Service) (calls : List SessionCall) : Service :=
  calls.foldl (fun s call => (call.run.exec s).2) s

end SessionCall

/-! ## The plain map -/

structure Book where
  now : Instant
  entries : Uuid → String → Option CacheEntry

namespace Book

def live? (b : Book) (user : Uuid) (cacheKey : String) : Option CacheEntry :=
  (b.entries user cacheKey).filter (Cache.CacheEntry.isLive b.now.wholeSeconds)

def update (b : Book) (user : Uuid) (cacheKey : String) (entry : Option CacheEntry) : Book :=
  { b with entries := fun u k => if u = user ∧ k = cacheKey then entry else b.entries u k }

def step (b : Book) : SessionCall → Book
  | .store user cacheKey payload lifetime =>
    b.update user cacheKey (some ⟨payload, some (b.now.wholeSeconds + max 1 lifetime)⟩)
  | .fetch _ _ => b
  | .delete user cacheKey => b.update user cacheKey none
  | .invalidateAll user => { b with entries := fun u k => if u = user then none else b.entries u k }
  | .wait time => { b with now := b.now + time }

noncomputable def reply (b : Book) : SessionCall → Except Failure SessionReply
  | .fetch user cacheKey =>
    match b.live? user cacheKey with
    | some entry => .ok (.payload entry.text)
    | none => .error (.cacheMiss (key user.text cacheKey))
  | .invalidateAll user => .ok (.removed (Set.ncard {cacheKey | (b.live? user cacheKey).isSome}))
  | _ => .ok .done

noncomputable def replies (b : Book) : List SessionCall → List (Except Failure SessionReply)
  | [] => []
  | call :: calls => b.reply call :: (b.step call).replies calls

def after (b : Book) (calls : List SessionCall) : Book := calls.foldl step b

def ofCache (s : Service) : Book := ⟨s.now, fun user cacheKey => s.cache.held? (key user.text cacheKey)⟩

end Book

namespace SessionCache

/-! ## Pairs and keys -/

theorem key_inj {user other : Uuid} {cacheKey otherKey : String} :
    key user.text cacheKey = key other.text otherKey ↔ user = other ∧ cacheKey = otherKey := by
  constructor
  · intro h
    obtain rfl := user_of_key h
    have hlists := congrArg String.toList h
    rw [toList_key, toList_key] at hlists
    exact ⟨rfl, String.toList_injective (List.append_cancel_left hlists)⟩
  · rintro ⟨rfl, rfl⟩
    rfl

variable {now : Int} {cache : Cache}

/-- The pattern of a user finds the live keys of the user and nothing else. -/
theorem mem_scan_user (hdistinct : (cache.map (·.1)).Nodup) {user : Uuid} {found : String} :
    found ∈ cache.scan now (key user.text "*") ↔
      ∃ cacheKey, (cache.live? now (key user.text cacheKey)).isSome ∧ key user.text cacheKey = found := by
  have hpattern : (key user.text "*").toList = (stem user.text).toList ++ ['*'] := toList_key _ _
  rw [Cache.mem_scan, hpattern, Cache.isMatch_star not_wild_stem]
  constructor
  · rintro ⟨⟨entry, hentry, hlive, rfl⟩, rest, hrest⟩
    have hkey : key user.text (String.ofList rest) = entry.1 := by
      rw [← String.toList_inj, toList_key, String.toList_ofList, hrest]
    refine ⟨String.ofList rest, ?_, hkey⟩
    rw [hkey, Option.isSome_iff_exists]
    exact ⟨entry.2, (Cache.live?_eq_some_iff hdistinct).mpr (List.mem_filter.mpr ⟨hentry, hlive⟩)⟩
  · rintro ⟨cacheKey, hsome, rfl⟩
    obtain ⟨e, he⟩ := Option.isSome_iff_exists.mp hsome
    obtain ⟨hmem, hlive⟩ := List.mem_filter.mp ((Cache.live?_eq_some_iff hdistinct).mp he)
    rw [toList_key]
    exact ⟨⟨_, hmem, hlive, rfl⟩, List.prefix_append _ _⟩

theorem nodup_scan (hdistinct : (cache.map (·.1)).Nodup) (pattern : String) :
    (cache.scan now pattern).Nodup := by
  have hlive : ((cache.live now).map (·.1)).Nodup := hdistinct.sublist (List.filter_sublist.map _)
  rw [Cache.scan, (List.mergeSort_perm _ _).nodup_iff]
  exact hlive.filter _

theorem length_scan_user (hdistinct : (cache.map (·.1)).Nodup) (user : Uuid) :
    (cache.scan now (key user.text "*")).length =
      Set.ncard {cacheKey | (cache.live? now (key user.text cacheKey)).isSome} := by
  have himage : Set.image (key user.text) {cacheKey | (cache.live? now (key user.text cacheKey)).isSome} =
      ((cache.scan now (key user.text "*")).toFinset : Set String) := by
    ext found
    rw [Finset.mem_coe, List.mem_toFinset, mem_scan_user hdistinct]
    rfl
  have hinjective : Function.Injective (key user.text) := fun _ _ h => (key_inj.mp h).2
  rw [← Set.ncard_image_of_injective _ hinjective, himage, Set.ncard_coe_finset,
    List.toFinset_card_of_nodup (nodup_scan hdistinct _)]

/-- Every key in a batch counts once when it is live. -/
theorem eraseAll_count (hdistinct : (cache.map (·.1)).Nodup) {keys : List String} (hkeys : keys.Nodup)
    (hlive : ∀ k ∈ keys, (cache.live? now k).isSome) : (eraseAll now cache keys).2 = keys.length := by
  induction keys generalizing cache with
  | nil => rfl
  | cons k rest ih =>
    obtain ⟨hfresh, hrest⟩ := List.nodup_cons.mp hkeys
    have hhit : (cache.get? now k).isSome := by
      rw [Cache.get?_eq hdistinct, Option.isSome_map]
      exact hlive k List.mem_cons_self
    have herased : ((cache.erase k).map (·.1)).Nodup := hdistinct.sublist (List.filter_sublist.map _)
    have hother : ∀ l ∈ rest, ((cache.erase k).live? now l).isSome := by
      intro l hl
      have hne : l ≠ k := fun h => hfresh (h ▸ hl)
      rw [Cache.live?, Cache.held?_erase, if_neg hne]
      exact hlive l (List.mem_cons_of_mem _ hl)
    rw [eraseAll]
    simp only [hhit, if_true, ih herased hrest hother, List.length_cons]
    omega

/-- Dropping what a scan has found counts the sessions of the user. -/
theorem eraseAll_scan_user (hdistinct : (cache.map (·.1)).Nodup) (user : Uuid) :
    (eraseAll now cache (cache.scan now (key user.text "*"))).2 =
      Set.ncard {cacheKey | (cache.live? now (key user.text cacheKey)).isSome} := by
  have hlive : ∀ k ∈ cache.scan now (key user.text "*"), (cache.live? now k).isSome := by
    intro k hk
    obtain ⟨cacheKey, hsome, rfl⟩ := (mem_scan_user hdistinct).mp hk
    exact hsome
  rw [eraseAll_count hdistinct (nodup_scan hdistinct _) hlive, length_scan_user hdistinct]

end SessionCache

/-! ## The cache as a map -/

structure Serves (s : Service) : Prop where
  set : Heeds s .cacheSet
  get : Heeds s .cacheGet
  delete : Heeds s .cacheDelete
  scan : Heeds s .cacheScan
  pipeline : Heeds s .cachePipeline

theorem Serves.mono {s t : Service} (hs : Serves s) (h : t.faults ⊆ s.faults) : Serves t :=
  ⟨hs.set.mono h, hs.get.mono h, hs.delete.mono h, hs.scan.mono h, hs.pipeline.mono h⟩

/-- The cache has at most one entry for a key, and for every pair the entry that the map has. -/
structure Book.Mirrors (b : Book) (s : Service) : Prop where
  now : b.now = s.now
  distinct : (s.cache.map (·.1)).Nodup
  live : ∀ user cacheKey, s.cache.live? s.now.wholeSeconds (key user.text cacheKey) = b.live? user cacheKey

namespace Book

variable {b : Book} {s t : Service}

theorem mirrors_ofCache (hdistinct : (s.cache.map (·.1)).Nodup) : (ofCache s).Mirrors s :=
  ⟨rfl, hdistinct, fun _ _ => rfl⟩

theorem live?_update (user : Uuid) (cacheKey : String) (entry : Option CacheEntry) (u : Uuid) (k : String) :
    (b.update user cacheKey entry).live? u k =
      if u = user ∧ k = cacheKey then entry.filter (Cache.CacheEntry.isLive b.now.wholeSeconds)
      else b.live? u k := by
  unfold live? update
  by_cases h : u = user ∧ k = cacheKey
  · simp only [if_pos h]
  · simp only [if_neg h]

theorem live?_invalidateAll (user u : Uuid) (k : String) :
    (b.step (.invalidateAll user)).live? u k = if u = user then none else b.live? u k := by
  rw [live?, step]
  by_cases hu : u = user
  · simp only [if_pos hu]
    rfl
  · simp only [if_neg hu]
    rfl

namespace Mirrors

/-- One entry is changed on both sides. -/
theorem update (h : b.Mirrors s) {user : Uuid} {cacheKey : String} {entry : Option CacheEntry}
    (hnow : t.now = s.now) (hdistinct : (t.cache.map (·.1)).Nodup)
    (hcache : ∀ k, t.cache.held? k = if k = key user.text cacheKey then entry else s.cache.held? k) :
    (b.update user cacheKey entry).Mirrors t := by
  refine ⟨h.now.trans hnow.symm, hdistinct, fun u k => ?_⟩
  rw [live?_update, Cache.live?, hcache, hnow, h.now]
  by_cases hpair : u = user ∧ k = cacheKey
  · rw [if_pos (key_inj.mpr hpair), if_pos hpair]
  · rw [if_neg fun hk => hpair (key_inj.mp hk), if_neg hpair]
    exact h.live u k

theorem wait (h : b.Mirrors s) (time : Nat) :
    (b.step (.wait time)).Mirrors { s with now := s.now + time } := by
  have hsame : (b.step (.wait time)).now = s.now + time := congrArg (· + (time : Int)) h.now
  refine ⟨hsame, h.distinct, fun u k => ?_⟩
  have hlater : s.now.wholeSeconds ≤ Instant.wholeSeconds (s.now + time) :=
    Instant.wholeSeconds_mono (Int.le_add_of_nonneg_right (Int.natCast_nonneg time))
  have hlive := congrArg (·.filter (Cache.CacheEntry.isLive (Instant.wholeSeconds (s.now + time)))) (h.live u k)
  simp only [Cache.live?, live?, h.now, Cache.filter_isLive_later hlater] at hlive
  rw [Cache.live?, live?, hsame]
  exact hlive

theorem invalidateAll (h : b.Mirrors s) {user : Uuid} (hnow : t.now = s.now)
    (hcache : t.cache = s.cache.filter fun e =>
      !(s.cache.scan s.now.wholeSeconds (key user.text "*")).contains e.1) :
    (b.step (.invalidateAll user)).Mirrors t := by
  refine ⟨h.now.trans hnow.symm, ?_, fun u k => ?_⟩
  · rw [hcache]
    exact h.distinct.sublist (List.filter_sublist.map _)
  · have hfound : key u.text k ∈ s.cache.scan s.now.wholeSeconds (key user.text "*") ↔
        u = user ∧ (b.live? u k).isSome := by
      rw [mem_scan_user h.distinct, ← h.live]
      constructor
      · rintro ⟨cacheKey, hsome, hkey⟩
        exact ⟨(key_inj.mp hkey).1.symm, hkey ▸ hsome⟩
      · rintro ⟨rfl, hsome⟩
        exact ⟨k, hsome, rfl⟩
    have hheld := Cache.held?_filter s.cache
      (fun k => !(s.cache.scan s.now.wholeSeconds (key user.text "*")).contains k) (key u.text k)
    have hlive : s.cache.live? s.now.wholeSeconds (key u.text k) = b.live? u k := h.live u k
    rw [Cache.live?] at hlive
    rw [Cache.live?, hcache, hnow, hheld, live?_invalidateAll]
    simp only [Bool.not_eq_true', List.contains_eq_mem, decide_eq_false_iff_not, hfound]
    by_cases hu : u = user
    · rw [if_pos hu]
      by_cases hsome : (b.live? u k).isSome
      · rw [if_neg (not_not_intro ⟨hu, hsome⟩)]
        rfl
      · rw [if_pos fun hboth => hsome hboth.2, hlive]
        exact Option.not_isSome_iff_eq_none.mp hsome
    · rw [if_neg hu, if_pos fun hboth => hu hboth.1, hlive]

end Mirrors

theorem step_mirrors (hs : Serves s) (h : b.Mirrors s) (call : SessionCall) :
    (call.run.exec s).1 = b.reply call ∧ (b.step call).Mirrors (call.run.exec s).2 ∧
      (call.run.exec s).2.faults ⊆ s.faults := by
  cases call with
  | store user cacheKey payload lifetime =>
    rw [SessionCall.run, exec_bind_ok (exec_store hs.set _ _ _ _)]
    refine ⟨rfl, ?_, faults_disarm s .cacheSet⟩
    rw [step, h.now]
    exact h.update rfl (Cache.nodup_put h.distinct _ _ _) fun _ => Cache.held?_put _ _ _ _ _
  | fetch user cacheKey =>
    have hget : s.cache.get? s.now.wholeSeconds (key user.text cacheKey) =
        (b.live? user cacheKey).map (·.text) := by
      rw [Cache.get?_eq h.distinct, h.live]
    have hfetch := exec_fetch hs.get user.text cacheKey
    rw [hget] at hfetch
    rw [SessionCall.run, exec_bind, hfetch, reply]
    cases b.live? user cacheKey with
    | none => exact ⟨rfl, ⟨h.now, h.distinct, h.live⟩, faults_disarm s .cacheGet⟩
    | some entry => exact ⟨rfl, ⟨h.now, h.distinct, h.live⟩, faults_disarm s .cacheGet⟩
  | delete user cacheKey =>
    rw [SessionCall.run, exec_bind_ok (exec_delete hs.delete _ _)]
    refine ⟨rfl, ?_, faults_disarm s .cacheDelete⟩
    exact h.update rfl (h.distinct.sublist (List.filter_sublist.map _)) fun _ => Cache.held?_erase _ _ _
  | invalidateAll user =>
    obtain ⟨t, hrun, hnow, hfaults, hcache⟩ := exec_invalidateAll hs.scan hs.pipeline user.text
    rw [SessionCall.run, exec_bind_ok hrun]
    refine ⟨?_, h.invalidateAll hnow hcache, hfaults⟩
    rw [eraseAll_scan_user h.distinct, reply]
    simp only [h.live]
    rfl
  | wait time => exact ⟨rfl, h.wait time, List.Subset.refl _⟩

theorem run_mirrors (hs : Serves s) (h : b.Mirrors s) (calls : List SessionCall) :
    SessionCall.replies s calls = b.replies calls ∧ (b.after calls).Mirrors (SessionCall.after s calls) := by
  induction calls generalizing b s with
  | nil => exact ⟨rfl, h⟩
  | cons call calls ih =>
    obtain ⟨hreply, hstep, hfaults⟩ := step_mirrors hs h call
    obtain ⟨hreplies, hafter⟩ := ih (hs.mono hfaults) hstep
    rw [SessionCall.replies, replies, hreply, hreplies]
    exact ⟨rfl, hafter⟩

end Book

/-- **The cached sessions are a map.** Whatever is called, in any order and with any cache keys, the
answers are those of the plain map, which in the end has the entries that are still in the cache, with
the same time left to live. -/
theorem sessions_as_map {s : Service} (hdistinct : (s.cache.map (·.1)).Nodup) (hs : Serves s)
    (calls : List SessionCall) :
    SessionCall.replies s calls = (Book.ofCache s).replies calls ∧
      ((Book.ofCache s).after calls).Mirrors (SessionCall.after s calls) :=
  Book.run_mirrors hs (Book.mirrors_ofCache hdistinct) calls

/-- Cache keys with the marks of keys and patterns. One user is logged out everywhere, the session of
the other expires. -/
theorem sessions_as_map_two_users :
    let ann := Uuid.counted 1
    let ben := Uuid.counted 2
    SessionCall.replies (.start 0) [.store ann "a:*" "first" 60, .store ben "a:*" "second" 0,
        .fetch ann "a:*", .invalidateAll ann, .fetch ann "a:*", .fetch ben "a:*", .wait 1000000,
        .fetch ben "a:*"] =
      [.ok .done, .ok .done, .ok (.payload "first"), .ok (.removed 1), .error (.cacheMiss (key ann.text "a:*")),
        .ok (.payload "second"), .ok .done, .error (.cacheMiss (key ben.text "a:*"))] := by
  intro ann ben
  have hunarmed : ∀ call, Heeds (.start 0) call := fun _ => heeds_unarmed rfl
  have hserves : Serves (.start 0) := ⟨hunarmed _, hunarmed _, hunarmed _, hunarmed _, hunarmed _⟩
  let filled := ((Book.ofCache (.start 0)).step (.store ann "a:*" "first" 60)).step (.store ben "a:*" "second" 0)
  have hsessions : ∀ k, (filled.live? ann k).isSome ↔ k = "a:*" := by
    intro k
    by_cases hk : k = "a:*"
    · subst hk
      decide
    · have hnone : filled.live? ann k = none := by
        simp only [filled, Book.step, Book.live?_update, hk, and_false, if_false]
        rfl
      simp [hnone, hk]
  have hcount : filled.reply (.invalidateAll ann) = .ok (.removed 1) := by
    simp [Book.reply, hsessions]
  have hreplies := (sessions_as_map (s := .start 0) List.nodup_nil hserves [.store ann "a:*" "first" 60,
    .store ben "a:*" "second" 0, .fetch ann "a:*", .invalidateAll ann, .fetch ann "a:*", .fetch ben "a:*",
    .wait 1000000, .fetch ben "a:*"]).1
  rw [hreplies]
  show [.ok .done, .ok .done, .ok (.payload "first"), filled.reply (.invalidateAll ann), _, _, _, _] = _
  rw [hcount]
  rfl

end Gatehouse
