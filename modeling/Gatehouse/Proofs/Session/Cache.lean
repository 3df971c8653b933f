import Gatehouse.Proofs.Calendar.Instant
import Gatehouse.Proofs.Directory.Uuid
import Gatehouse.Proofs.Service.Twin
import Gatehouse.Proofs.Service.Writes
import Mathlib.Data.List.Nodup

/-!
# Cached sessions of a user

The keys of one user are those that begin with the user's text, so that dropping all that a scan finds
leaves no session of the user, and new sessions of others bring none back.
-/

namespace Gatehouse

namespace Cache

/-! ## Patterns -/

theorem someTail_of_nil {p : List Char → Bool} (h : p [] = true) : ∀ cs, someTail p cs = true
  | [] => h
  | c :: rest => by rw [someTail, someTail_of_nil h rest, Bool.or_true]

def IsWild (c : Char) : Prop := c = '*' ∨ c = '?' ∨ c = '\\'

theorem isMatch_cons {c : Char} (h : ¬ IsWild c) (pattern cs : List Char) :
    isMatch (c :: pattern) cs = true ↔ ∃ rest, cs = c :: rest ∧ isMatch pattern rest = true := by
  simp only [IsWild, not_or] at h
  obtain ⟨hstar, hmark, hslash⟩ := h
  cases cs with
  | nil => simp [isMatch, hslash]
  | cons d rest =>
    have hunfold : isMatch (c :: pattern) (d :: rest) = (d == c && isMatch pattern rest) := by
      rw [isMatch.eq_6 c pattern _ _ hstar hmark fun _ _ h => absurd h hslash]
    rw [hunfold, Bool.and_eq_true, beq_iff_eq]
    constructor
    · rintro ⟨rfl, hrest⟩
      exact ⟨rest, rfl, hrest⟩
    · rintro ⟨_, heq, hrest⟩
      cases heq
      exact ⟨rfl, hrest⟩

/-- A star behind a plain text fits exactly what begins with the text. -/
theorem isMatch_star {pattern : List Char} (h : ∀ c ∈ pattern, ¬ IsWild c) (cs : List Char) :
    isMatch (pattern ++ ['*']) cs = true ↔ pattern <+: cs := by
  induction pattern generalizing cs with
  | nil =>
    simp only [List.nil_append, List.nil_prefix, iff_true]
    exact someTail_of_nil rfl cs
  | cons c pattern ih =>
    rw [List.cons_append, isMatch_cons (h c List.mem_cons_self)]
    simp only [ih fun d hd => h d (List.mem_cons_of_mem _ hd)]
    constructor
    · rintro ⟨rest, rfl, hrest⟩
      exact (List.prefix_cons_inj c).mpr hrest
    · rintro ⟨tail, rfl⟩
      exact ⟨pattern ++ tail, rfl, List.prefix_append _ _⟩

/-! ## Scans -/

theorem mem_scan {now : Int} {cache : Cache} {pattern key : String} :
    key ∈ cache.scan now pattern ↔
      (∃ entry ∈ cache, CacheEntry.isLive now entry.2 = true ∧ entry.1 = key) ∧
        isMatch pattern.toList key.toList = true := by
  simp only [scan, List.mem_mergeSort, List.mem_filter, List.mem_map, live, and_assoc]

/-! ## Entries -/

/-- The entry under a key, live or not. -/
def held? (cache : Cache) (key : String) : Option CacheEntry :=
  (cache.find? (·.1 == key)).map (·.2)

theorem held?_filter (cache : Cache) (keep : String → Bool) (key : String) :
    held? (cache.filter fun e => keep e.1) key = if keep key then cache.held? key else none := by
  rw [held?, List.find?_filter]
  cases hk : keep key with
  | true =>
    have hsame : (fun e : String × CacheEntry => decide (keep e.1 = true ∧ (e.1 == key) = true)) =
        fun e => e.1 == key := by
      funext e
      by_cases he : e.1 = key <;> simp [he, hk]
    rw [hsame]
    rfl
  | false =>
    have hnone : (fun e : String × CacheEntry => decide (keep e.1 = true ∧ (e.1 == key) = true)) =
        fun _ => false := by
      funext e
      by_cases he : e.1 = key <;> simp [he, hk]
    rw [hnone, List.find?_eq_none.mpr fun _ _ => Bool.false_ne_true]
    rfl

theorem held?_erase (cache : Cache) (key other : String) :
    held? (cache.erase key) other = if other = key then none else cache.held? other := by
  rw [erase, held?_filter cache (· != key) other]
  by_cases h : other = key <;> simp [h]

theorem held?_put (cache : Cache) (key text : String) (expiry : Option Int) (other : String) :
    held? (cache.put key text expiry) other =
      if other = key then some ⟨text, expiry⟩ else cache.held? other := by
  have herase := held?_erase cache key other
  rw [held?] at herase ⊢
  rw [put, List.find?_append, Option.map_or, herase]
  by_cases h : other = key
  · simp [h]
  · simp [h, Ne.symm h]

theorem get?_of_held? {now : Int} {cache : Cache} {key : String} {e : CacheEntry}
    (h : cache.held? key = some e) (hlive : CacheEntry.isLive now e = true) :
    cache.get? now key = some e.text := by
  obtain ⟨found, hfound, rfl⟩ := Option.map_eq_some_iff.mp h
  obtain ⟨hkey, front, back, rfl, hfront⟩ := List.find?_eq_some_iff_append.mp hfound
  have hnone : (front.filter fun e => CacheEntry.isLive now e.2).find? (·.1 == key) = none :=
    List.find?_eq_none.mpr fun e he => by simpa using hfront e (List.mem_filter.mp he).1
  have hfirst : (found :: back).filter (fun e => CacheEntry.isLive now e.2) =
      found :: back.filter fun e => CacheEntry.isLive now e.2 := List.filter_cons_of_pos hlive
  have hget : (live now (front ++ found :: back)).find? (·.1 == key) = some found := by
    rw [live, List.filter_append, List.find?_append, hnone, hfirst]
    simp [hkey]
  rw [get?, hget]
  rfl

theorem held?_eq_some_iff {cache : Cache} (hdistinct : (cache.map (·.1)).Nodup) {key : String}
    {e : CacheEntry} : cache.held? key = some e ↔ (key, e) ∈ cache := by
  constructor
  · intro h
    obtain ⟨found, hfound, rfl⟩ := Option.map_eq_some_iff.mp h
    have hkey : found.1 = key := by simpa using List.find?_some hfound
    rw [← hkey]
    exact List.mem_of_find?_eq_some hfound
  · intro h
    cases hfind : cache.held? key with
    | none =>
      rw [held?, Option.map_eq_none_iff, List.find?_eq_none] at hfind
      exact absurd (beq_self_eq_true key) (hfind _ h)
    | some other =>
      obtain ⟨found, hfound, rfl⟩ := Option.map_eq_some_iff.mp hfind
      have hkey : found.1 = key := by simpa using List.find?_some hfound
      have hsame : found = (key, e) :=
        List.inj_on_of_nodup_map hdistinct (List.mem_of_find?_eq_some hfound) h hkey
      rw [hsame]

def live? (now : Int) (cache : Cache) (key : String) : Option CacheEntry :=
  (cache.held? key).filter (CacheEntry.isLive now)

theorem live?_eq_some_iff {now : Int} {cache : Cache} (hdistinct : (cache.map (·.1)).Nodup) {key : String}
    {e : CacheEntry} : cache.live? now key = some e ↔ (key, e) ∈ cache.live now := by
  rw [live?, Option.filter_eq_some_iff, held?_eq_some_iff hdistinct, live, List.mem_filter]

theorem get?_eq {cache : Cache} (hdistinct : (cache.map (·.1)).Nodup) (now : Int) (key : String) :
    cache.get? now key = (cache.live? now key).map (·.text) := by
  have hlive : ((cache.live now).map (·.1)).Nodup :=
    hdistinct.sublist (List.filter_sublist.map _)
  have hheld : (cache.live now).held? key = cache.live? now key := by
    ext e
    rw [held?_eq_some_iff hlive, live?_eq_some_iff hdistinct]
  rw [← hheld, held?, Option.map_map]
  rfl

theorem nodup_put {cache : Cache} (hdistinct : (cache.map (·.1)).Nodup) (key text : String)
    (expiry : Option Int) : ((cache.put key text expiry).map (·.1)).Nodup := by
  have hfree : key ∉ (cache.erase key).map (·.1) := by
    simp [erase]
  rw [put, List.map_append, List.nodup_append]
  refine ⟨hdistinct.sublist (List.filter_sublist.map _), List.nodup_singleton _, ?_⟩
  intro other hother last hlast hsame
  rw [hsame, List.mem_singleton.mp hlast] at hother
  exact hfree hother

/-- An entry under a key that no live entry has comes last, and all live entries stay. -/
theorem live_put {now : Int} {cache : Cache} {key text : String} {expiry : Option Int}
    (hfresh : ∀ entry ∈ cache.live now, entry.1 ≠ key) (hlive : CacheEntry.isLive now ⟨text, expiry⟩ = true) :
    (cache.put key text expiry).live now = cache.live now ++ [(key, ⟨text, expiry⟩)] := by
  have hkept : (cache.erase key).live now = cache.live now := by
    rw [erase, live, List.filter_filter]
    refine List.filter_congr fun entry he => ?_
    cases hentry : CacheEntry.isLive now entry.2 with
    | false => simp [hentry]
    | true => simpa [hentry] using hfresh entry (List.mem_filter.mpr ⟨he, hentry⟩)
  have hlast : live now [(key, ⟨text, expiry⟩)] = [(key, ⟨text, expiry⟩)] := List.filter_cons_of_pos hlive
  rw [put, live, List.filter_append]
  exact congrArg₂ (· ++ ·) hkept hlast

theorem isLive_of_later {now later : Int} (h : now ≤ later) {e : CacheEntry}
    (hlive : CacheEntry.isLive later e = true) : CacheEntry.isLive now e = true := by
  unfold CacheEntry.isLive at *
  cases he : e.expiry with
  | none => rfl
  | some t =>
    rw [he] at hlive
    simp only [decide_eq_true_eq] at *
    omega

theorem filter_isLive_later {now later : Int} (h : now ≤ later) (o : Option CacheEntry) :
    (o.filter (CacheEntry.isLive now)).filter (CacheEntry.isLive later) =
      o.filter (CacheEntry.isLive later) := by
  have hboth : (fun e => CacheEntry.isLive now e && CacheEntry.isLive later e) = CacheEntry.isLive later := by
    funext e
    cases hlater : CacheEntry.isLive later e with
    | true => simp [isLive_of_later h hlater]
    | false => exact Bool.and_false _
  rw [Option.filter_filter, hboth]

end Cache

namespace SessionCache

open Run Service

/-! ## Keys -/

def stem (user : String) : String := "auth:token:" ++ user ++ ":"

theorem toList_stem (user : String) :
    (stem user).toList = "auth:token:".toList ++ user.toList ++ ":".toList := by
  rw [stem, String.toList_append, String.toList_append]

theorem toList_key (user cacheKey : String) :
    (key user cacheKey).toList = (stem user).toList ++ cacheKey.toList := by
  have hkey : key user cacheKey = stem user ++ cacheKey := rfl
  rw [hkey, String.toList_append]

theorem not_wild_stem {user : Uuid} : ∀ c ∈ (stem user.text).toList, ¬ Cache.IsWild c := by
  intro c hc
  have hfront : ∀ c ∈ "auth:token:".toList, ¬ Cache.IsWild c := by
    simp [Cache.IsWild]
  have hhyphen : ¬ Cache.IsWild '-' := by
    simp [Cache.IsWild]
  have hhex : ∀ k < 16, ¬ (Quoted.hexDigit k = '*' ∨ Quoted.hexDigit k = '?' ∨ Quoted.hexDigit k = '\\') := by
    decide
  have hback : ∀ c ∈ ":".toList, ¬ Cache.IsWild c := by
    simp [Cache.IsWild]
  rw [toList_stem, List.mem_append, List.mem_append] at hc
  rcases hc with (hc | hc) | hc
  · exact hfront c hc
  · rcases Uuid.mem_text hc with rfl | ⟨k, hk, rfl⟩
    · exact hhyphen
    · exact hhex k hk
  · exact hback c hc

theorem user_of_key {u v : Uuid} {cacheKey other : String} (h : key u.text cacheKey = key v.text other) :
    u = v := by
  have hlength : u.text.toList.length = v.text.toList.length := by
    rw [Uuid.length_text, Uuid.length_text]
  have hlists := congrArg String.toList h
  rw [toList_key, toList_key] at hlists
  have hstem : (stem u.text).toList = (stem v.text).toList := by
    apply List.append_inj_left hlists
    simp only [toList_stem, List.length_append, hlength]
  rw [toList_stem, toList_stem, List.append_assoc, List.append_assoc] at hstem
  have htext := List.append_inj_left (List.append_cancel_left hstem) hlength
  exact Uuid.text_injective (String.toList_injective htext)

/-! ## Dropping all sessions -/

theorem eraseAll_eq (now : Int) (entries : List String) (cache : Cache) :
    (eraseAll now cache entries).1 = cache.filter fun e => !entries.contains e.1 := by
  induction entries generalizing cache with
  | nil => exact (List.filter_eq_self.mpr fun _ _ => rfl).symm
  | cons entry rest ih =>
    rw [eraseAll]
    simp only [ih, Cache.erase, List.filter_filter]
    apply List.filter_congr
    intro e _
    by_cases h : e.1 = entry <;> simp [h]

def IsClear (s : Service) (user : Uuid) : Prop :=
  ∀ entry ∈ s.cache, Cache.CacheEntry.isLive s.now.wholeSeconds entry.2 = true →
    ∀ cacheKey, entry.1 ≠ key user.text cacheKey

theorem IsClear.get?_eq_none {s : Service} {user : Uuid} (h : IsClear s user) (cacheKey : String) :
    s.cache.get? s.now.wholeSeconds (key user.text cacheKey) = none := by
  rw [Cache.get?, Option.map_eq_none_iff, List.find?_eq_none]
  intro entry he
  obtain ⟨hmem, hlive⟩ := List.mem_filter.mp he
  simpa using h entry hmem hlive cacheKey

def Reaches (s : Service) : Prop :=
  ∀ call how, call = .cacheScan ∨ call = .cachePipeline →
    (call, Fault.breaks how) ∉ s.faults ∧ (call, Fault.breaksAfter how) ∉ s.faults

def issued (s : Service) (call : Call) (command : Command) : Service :=
  { s.disarm call with commands := s.commands ++ [command] }

def Heeds (s : Service) (call : Call) : Prop :=
  ∀ how, (call, Fault.breaks how) ∉ s.faults ∧ (call, Fault.breaksAfter how) ∉ s.faults

theorem Heeds.mono {s t : Service} {call : Call} (hs : Heeds s call) (h : t.faults ⊆ s.faults) :
    Heeds t call :=
  fun how => ⟨fun hm => (hs how).1 (h hm), fun hm => (hs how).2 (h hm)⟩

theorem heeds_unarmed {s : Service} {call : Call} (h : s.fault? call = none) : Heeds s call := by
  rw [fault?, Option.map_eq_none_iff, List.find?_eq_none] at h
  exact fun how => ⟨fun hm => h _ hm (beq_self_eq_true call), fun hm => h _ hm (beq_self_eq_true call)⟩

def breakdown? (s : Service) (call : Call) : Option Breakdown :=
  match s.fault? call with
  | some (.breaks how) | some (.breaksAfter how) => some how
  | _ => none

/-- The next use of a call is going to break before its work is done. -/
def isSkipped (s : Service) (call : Call) : Bool :=
  match s.fault? call with
  | some (.breaks _) => true
  | _ => false

theorem not_skipped_of_breakdown? {s : Service} {call : Call} (h : breakdown? s call = none) :
    isSkipped s call = false := by
  unfold breakdown? at h
  unfold isSkipped
  split at h
  · cases h
  · cases h
  · split
    · exact absurd ‹_› (by simp_all)
    · rfl

theorem Heeds.breakdown? {s : Service} {call : Call} (hs : Heeds s call) : breakdown? s call = none := by
  rw [SessionCache.breakdown?]
  cases hf : s.fault? call with
  | none => rfl
  | some fault =>
    cases fault with
    | breaks how => exact absurd (mem_of_fault? hf) (hs how).1
    | breaksAfter how => exact absurd (mem_of_fault? hf) (hs how).2
    | answers value => rfl
    | hangs => rfl

theorem Heeds.not_skipped {s : Service} {call : Call} (hs : Heeds s call) : isSkipped s call = false :=
  not_skipped_of_breakdown? hs.breakdown?

def told {α : Type} (failure : Breakdown → Failure) (broken : Option Breakdown) (a : α) : Except Failure α :=
  match broken with
  | some how => .error (failure how)
  | none => .ok a

/-- Whether a command does its work and whether it tells so are two things: a reply can get lost. -/
theorem exec_issue_eq {α : Type} (s : Service) (call : Call) (command : Command)
    (work : Service → Service × α) : (issue call command work).exec s =
      (told .broken (breakdown? s call) (work (issued s call command)).2,
        if isSkipped s call then issued s call command else (work (issued s call command)).1) := by
  have hrecord : (modify fun s => { s with commands := s.commands ++ [command] } : Run Unit).exec s =
      (.ok (), { s with commands := s.commands ++ [command] }) := rfl
  have harmed : Service.fault? { s with commands := s.commands ++ [command] } call = s.fault? call := rfl
  have hdisarmed : Service.disarm { s with commands := s.commands ++ [command] } call =
      issued s call command := rfl
  rw [issue, exec_bind_ok hrecord, exec_guarded, harmed, hdisarmed, breakdown?, isSkipped]
  cases hf : s.fault? call with
  | none =>
    have hunarmed : issued s call command = { s with commands := s.commands ++ [command] } := by
      rw [issued, disarm_unarmed hf]
    rw [hunarmed]
    rfl
  | some fault => cases fault <;> rfl

theorem issue_gives {α : Type} {s : Service} {call : Call} {command : Command} {work : Service → Service × α}
    {Q : Except Failure α → Service → Prop}
    (hbreaks : ∀ how, ¬ Heeds s call → Q (.error (.broken how)) (issued s call command))
    (hlost : ∀ how, ¬ Heeds s call → Q (.error (.broken how)) (work (issued s call command)).1)
    (hworks : Q (.ok (work (issued s call command)).2) (work (issued s call command)).1) :
    Gives (issue call command work) s Q := by
  rw [Gives, exec_issue_eq]
  cases h : breakdown? s call with
  | none =>
    rw [not_skipped_of_breakdown? h]
    exact hworks
  | some how =>
    have hdeaf : ¬ Heeds s call := by
      intro hs
      rw [hs.breakdown?] at h
      cases h
    cases isSkipped s call with
    | true => exact hbreaks how hdeaf
    | false => exact hlost how hdeaf

theorem exec_issue {α : Type} {s : Service} {call : Call} (hs : Heeds s call) (command : Command)
    (work : Service → Service × α) : (issue call command work).exec s =
      (.ok (work (issued s call command)).2, (work (issued s call command)).1) := by
  rw [exec_issue_eq, hs.breakdown?, hs.not_skipped]
  rfl

theorem exec_wrap {α : Type} {work : Run α} {s t : Service} {a : α} (h : work.exec s = (.ok a, t))
    (step : CacheStep) (user : String) : (wrap step user work).exec s = (.ok a, t) := by
  rw [wrap, exec_tryCatch, h]

def reported (step : CacheStep) (user : String) : Breakdown → Failure
  | .connection => .cacheStep step user
  | how => .broken how

theorem exec_wrap_broken {α : Type} {work : Run α} {s t : Service} {how : Breakdown}
    (h : work.exec s = (.error (.broken how), t)) (step : CacheStep) (user : String) :
    (wrap step user work).exec s = (.error (reported step user how), t) := by
  rw [wrap, exec_tryCatch, h]
  cases how <;> rfl

theorem exec_wrap_told {α : Type} {work : Run α} {s t : Service} {broken : Option Breakdown} {a : α}
    (h : work.exec s = (told .broken broken a, t)) (step : CacheStep) (user : String) :
    (wrap step user work).exec s = (told (reported step user) broken a, t) := by
  cases broken with
  | none => exact exec_wrap h step user
  | some how => exact exec_wrap_broken h step user

theorem faults_disarm (s : Service) (call : Call) : (s.disarm call).faults ⊆ s.faults :=
  fun _ hf => (List.mem_filter.mp hf).1

/-! ## Single sessions -/

/-- A session is stored, unless the command breaks before that. -/
theorem exec_store_eq (s : Service) (user cacheKey payload : String) (lifetime : Int) :
    (store user cacheKey payload lifetime).exec s =
      (told (reported .store user) (breakdown? s .cacheSet) (),
        { issued s .cacheSet (.set (key user cacheKey) payload (max 1 lifetime)) with
          cache := if isSkipped s .cacheSet then s.cache
            else s.cache.put (key user cacheKey) payload (some (s.now.wholeSeconds + max 1 lifetime)) }) := by
  have hissue := exec_issue_eq s .cacheSet (.set (key user cacheKey) payload (max 1 lifetime)) fun s =>
    ({ s with cache := s.cache.put (key user cacheKey) payload (some (s.now.wholeSeconds + max 1 lifetime)) }, ())
  refine (exec_wrap_told hissue .store user).trans ?_
  cases isSkipped s .cacheSet <;> rfl

theorem exec_store {s : Service} (hs : Heeds s .cacheSet) (user cacheKey payload : String) (lifetime : Int) :
    (store user cacheKey payload lifetime).exec s =
      (.ok (), { issued s .cacheSet (.set (key user cacheKey) payload (max 1 lifetime)) with
        cache := s.cache.put (key user cacheKey) payload
          (some (s.now.wholeSeconds + max 1 lifetime)) }) := by
  rw [exec_store_eq, hs.breakdown?, hs.not_skipped]
  rfl

theorem exec_fetch {s : Service} (hs : Heeds s .cacheGet) (user cacheKey : String) :
    (fetch user cacheKey).exec s =
      (match s.cache.get? s.now.wholeSeconds (key user cacheKey) with
        | some payload => .ok payload
        | none => .error (.cacheMiss (key user cacheKey)),
      issued s .cacheGet (.get (key user cacheKey))) := by
  have hget := exec_wrap (exec_issue hs (.get (key user cacheKey)) fun s =>
    (s, s.cache.get? s.now.wholeSeconds (key user cacheKey))) .fetch user
  rw [fetch, exec_bind_ok hget]
  have hcache : (issued s .cacheGet (.get (key user cacheKey))).cache.get?
      (issued s .cacheGet (.get (key user cacheKey))).now.wholeSeconds (key user cacheKey) =
        s.cache.get? s.now.wholeSeconds (key user cacheKey) := rfl
  rw [hcache]
  cases s.cache.get? s.now.wholeSeconds (key user cacheKey) <;> rfl

theorem exec_delete {s : Service} (hs : Heeds s .cacheDelete) (user cacheKey : String) :
    (delete user cacheKey).exec s =
      (.ok (), { issued s .cacheDelete (.delete (key user cacheKey)) with
        cache := s.cache.erase (key user cacheKey) }) :=
  exec_wrap (exec_issue hs _ _) _ _

/-! ## All sessions of a user -/

theorem Reaches.mono {s t : Service} (hs : Reaches s) (h : t.faults ⊆ s.faults) : Reaches t :=
  fun call how hcall => ⟨fun hm => (hs call how hcall).1 (h hm), fun hm => (hs call how hcall).2 (h hm)⟩

theorem Reaches.heeds {s : Service} (hs : Reaches s) :
    Heeds s .cacheScan ∧ Heeds s .cachePipeline :=
  ⟨fun how => hs .cacheScan how (.inl rfl), fun how => hs .cachePipeline how (.inr rfl)⟩

/-- How it breaks to drop all sessions of a user: when they are looked for, or when those that were found are
dropped. -/
def obstacle? (s : Service) (user : String) : Option Breakdown :=
  match breakdown? s .cacheScan with
  | some how => some how
  | none =>
    if (s.cache.scan s.now.wholeSeconds (key user "*")).isEmpty then none else breakdown? s .cachePipeline

/-- Nothing is dropped: the sessions are not found, or what was found is skipped. -/
def isSpared (s : Service) (user : String) : Bool :=
  match breakdown? s .cacheScan with
  | some _ => true
  | none => !(s.cache.scan s.now.wholeSeconds (key user "*")).isEmpty && isSkipped s .cachePipeline

theorem not_spared_of_obstacle? {s : Service} {user : String} (h : obstacle? s user = none) :
    isSpared s user = false := by
  unfold obstacle? at h
  unfold isSpared
  split at h
  · cases h
  · split at h
    · rename_i hempty
      simp [hempty]
    · simp [not_skipped_of_breakdown? h]

theorem fault?_issued (s : Service) {call other : Call} (h : call ≠ other) (command : Command) :
    (issued s other command).fault? call = s.fault? call :=
  fault?_disarm_other s h

/-- What dropping all sessions of a user comes to: either nothing was dropped and all entries stay, or what a
scan has found is gone and all else is still there. The second can also end in a failure, if the reply is lost. -/
theorem exec_invalidateAll_eq (s : Service) (user : String) : ∃ t, t.now = s.now ∧ t.faults ⊆ s.faults ∧
    (invalidateAll user).exec s =
      (told (reported .invalidate user) (obstacle? s user)
        (eraseAll s.now.wholeSeconds s.cache (s.cache.scan s.now.wholeSeconds (key user "*"))).2, t) ∧
    t.cache = if isSpared s user then s.cache
      else s.cache.filter fun e => !(s.cache.scan s.now.wholeSeconds (key user "*")).contains e.1 := by
  have hfaults : (issued s .cacheScan (.scan (key user "*"))).faults ⊆ s.faults := faults_disarm s .cacheScan
  have hscan := exec_issue_eq s .cacheScan (.scan (key user "*")) fun s =>
    (s, s.cache.scan s.now.wholeSeconds (key user "*"))
  have hfound : (issued s .cacheScan (.scan (key user "*"))).cache.scan
      (issued s .cacheScan (.scan (key user "*"))).now.wholeSeconds (key user "*") =
        s.cache.scan s.now.wholeSeconds (key user "*") := rfl
  rw [hfound, ite_self] at hscan
  rw [obstacle?, isSpared]
  unfold invalidateAll
  cases hfirst : breakdown? s .cacheScan with
  | some how =>
    rw [hfirst] at hscan
    exact ⟨issued s .cacheScan (.scan (key user "*")), rfl, hfaults,
      exec_wrap_broken (exec_bind_error hscan _) _ _, rfl⟩
  | none =>
    rw [hfirst] at hscan
    generalize s.cache.scan s.now.wholeSeconds (key user "*") = keys at hscan
    cases keys with
    | nil =>
      exact ⟨issued s .cacheScan (.scan (key user "*")), rfl, hfaults,
        exec_wrap (exec_bind_ok hscan _) _ _, (List.filter_eq_self.mpr fun _ _ => rfl).symm⟩
    | cons entry rest =>
      -- the scan has used up faults of its own, none of the pipeline
      have hdrop := exec_issue_eq (issued s .cacheScan (.scan (key user "*"))) .cachePipeline
        (.pipeline (entry :: rest)) fun s =>
          ({ s with cache := (eraseAll s.now.wholeSeconds s.cache (entry :: rest)).1 },
            (eraseAll s.now.wholeSeconds s.cache (entry :: rest)).2)
      have hfewer : (issued (issued s .cacheScan (.scan (key user "*"))) .cachePipeline
          (.pipeline (entry :: rest))).faults ⊆ s.faults :=
        List.Subset.trans (faults_disarm _ .cachePipeline) hfaults
      rw [breakdown?, isSkipped, fault?_issued s (by decide), ← breakdown?, ← isSkipped] at hdrop
      simp only [List.isEmpty_cons, Bool.not_false, Bool.true_and]
      cases hskip : isSkipped s .cachePipeline with
      | true =>
        rw [hskip] at hdrop
        exact ⟨issued (issued s .cacheScan (.scan (key user "*"))) .cachePipeline (.pipeline (entry :: rest)), rfl,
          hfewer, exec_wrap_told ((exec_bind_ok hscan _).trans hdrop) _ _, rfl⟩
      | false =>
        rw [hskip] at hdrop
        exact ⟨{ issued (issued s .cacheScan (.scan (key user "*"))) .cachePipeline (.pipeline (entry :: rest)) with
            cache := (eraseAll s.now.wholeSeconds s.cache (entry :: rest)).1 }, rfl,
          hfewer, exec_wrap_told ((exec_bind_ok hscan _).trans hdrop) _ _,
          eraseAll_eq s.now.wholeSeconds (entry :: rest) s.cache⟩

theorem Heeds.obstacle? {s : Service} (hscan : Heeds s .cacheScan) (hpipeline : Heeds s .cachePipeline)
    (user : String) : obstacle? s user = none := by
  rw [SessionCache.obstacle?, hscan.breakdown?, hpipeline.breakdown?]
  exact ite_self none

/-- What a scan has found is gone, and all else is still there. -/
theorem exec_invalidateAll {s : Service} (hscan : Heeds s .cacheScan) (hpipeline : Heeds s .cachePipeline)
    (user : String) : ∃ t, (invalidateAll user).exec s =
        (.ok (eraseAll s.now.wholeSeconds s.cache (s.cache.scan s.now.wholeSeconds (key user "*"))).2, t) ∧
      t.now = s.now ∧ t.faults ⊆ s.faults ∧
      t.cache = s.cache.filter fun e => !(s.cache.scan s.now.wholeSeconds (key user "*")).contains e.1 := by
  obtain ⟨t, hnow, hfaults, hends, hcache⟩ := exec_invalidateAll_eq s user
  have hfree := hscan.obstacle? hpipeline user
  rw [hfree] at hends
  rw [not_spared_of_obstacle? hfree] at hcache
  exact ⟨t, hends, hnow, hfaults, hcache⟩

theorem isClear_of_dropped {s t : Service} {user : Uuid} (hnow : t.now = s.now)
    (hcache : t.cache = s.cache.filter fun e =>
      !(s.cache.scan s.now.wholeSeconds (key user.text "*")).contains e.1) : IsClear t user := by
  intro entry he hlive cacheKey hkey
  rw [hcache, List.mem_filter] at he
  obtain ⟨hmem, hfree⟩ := he
  rw [hnow] at hlive
  have hfound : entry.1 ∈ s.cache.scan s.now.wholeSeconds (key user.text "*") := by
    rw [Cache.mem_scan, toList_key, hkey, toList_key]
    refine ⟨⟨entry, hmem, hlive, hkey⟩, ?_⟩
    exact (Cache.isMatch_star not_wild_stem _).mpr (List.prefix_append _ _)
  simp [hfound] at hfree

end SessionCache

end Gatehouse
