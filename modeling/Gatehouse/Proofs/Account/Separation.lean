import Gatehouse.Proofs.Account.Passwords
import Gatehouse.Proofs.Account.Session
import Gatehouse.Proofs.Session.Book

/-!
# Logins that share no entry

A seal tells under which nonce it was made, so logins that draw different nonces keep their sessions under
different keys, also when they are of one user in one second and hand out the same token. Each one adds its
own entry to the cache and leaves all that is there.
-/

namespace Gatehouse

open Run Service

namespace Login

/-! ## The entry of a login -/

structure Adds (settings : Settings) (s : Service) (response : Response) (entry : String × CacheEntry)
    (t : Service) : Prop where
  seals : t.seals = s.seals + 1
  sealed : Envelope.wrap settings.sealKey (Envelope.countedNonce (s.seals + 1)) response.accessToken =
    .ok response.sealedToken
  shown : ∃ user : Uuid, response.user.id = user.text
  key : entry.1 = SessionCache.key response.user.id response.sealedToken
  live : Cache.CacheEntry.isLive s.now.wholeSeconds entry.2 = true
  cache : t.cache = s.cache.put entry.1 entry.2.text entry.2.expiry

/-- A login leaves the cache as it is, or it ends well and adds its entry. -/
theorem run_adds (settings : Settings) (r : Request) (notify : Bool) (s : Service) :
    Gives (run settings r notify) s fun answer t => t.now = s.now ∧
      (t.cache = s.cache ∧ (∀ response, answer = .ok (.ok response) → ¬ SessionCache.Heeds s .cacheSet) ∨
        ∃ response entry, answer = .ok (.ok response) ∧ Adds settings s response entry t) := by
  have hbegin := keeps_begin settings r s
  rcases hopened : (begin settings r).exec s with ⟨answer, u⟩
  rw [hopened] at hbegin
  have hclosed : (inTransaction (begin settings r)).exec s = (answer, u.rolledBack) := by
    rw [exec_inTransaction, hopened]
  have hstart : u.rolledBack.now = s.now := hbegin.now
  have hbefore : u.rolledBack.cache = s.cache := hbegin.cache
  unfold Gives
  by_cases hsession : ∃ session, answer = .ok (.ok session)
  · obtain ⟨session, rfl⟩ := hsession
    obtain ⟨hseals, hwrap, hshown⟩ := begin_seals hopened
    obtain ⟨t, ht, hposted⟩ := exec_run_begun hclosed notify
    have hcache := hposted.cache
    rw [hstart, hbefore] at hcache
    rw [ht]
    refine ⟨hposted.now.trans hstart, ?_⟩
    cases hskip : SessionCache.isSkipped u.rolledBack .cacheSet with
    | true =>
      rw [hskip] at hcache
      refine .inl ⟨hcache, fun _ _ hheeds => ?_⟩
      have hheeded := (hheeds.mono (t := u.rolledBack) hbegin.faults).not_skipped
      rw [hskip] at hheeded
      cases hheeded
    | false =>
      rw [hskip] at hcache
      have hkept : 1 ≤ keptFor settings := Int.le_max_left _ _
      exact .inr ⟨session.response, (SessionCache.key session.user.text session.response.sealedToken,
        ⟨session.snapshot.text, some (s.now.wholeSeconds + keptFor settings)⟩), rfl,
        { seals := hposted.seals.trans hseals
          sealed := hwrap
          shown := ⟨_, hshown⟩
          key := by rw [hshown]
          live := decide_eq_true (by omega)
          cache := hcache }⟩
  · obtain ⟨refused, ht, hrefused⟩ :=
      exec_run_unbegun hclosed (fun session heq => hsession ⟨session, heq⟩) notify
    rw [ht]
    exact ⟨hstart, .inl ⟨hbefore, fun response heq => absurd heq (hrefused response)⟩⟩

end Login

/-! ## Nonces of cached sessions -/

def Service.sessions (s : Service) : Cache := s.cache.live s.now.wholeSeconds

/-- The key of a session was sealed under the nonce, for whatever user and under whatever key. -/
def IsNonceOf (nonce : List UInt8) (entryKey : String) : Prop :=
  nonce.length = Envelope.nonceSize ∧ ∃ (user : Uuid) (key : Envelope.Key) (token sealed : String),
    Envelope.wrap key nonce token = .ok sealed ∧ entryKey = SessionCache.key user.text sealed

theorem IsNonceOf.unique {nonce other : List UInt8} {entryKey : String} (h : IsNonceOf nonce entryKey)
    (hother : IsNonceOf other entryKey) : nonce = other := by
  obtain ⟨hlength, user, key, token, sealed, hwrap, rfl⟩ := h
  obtain ⟨hlength', user', key', token', sealed', hwrap', hkey⟩ := hother
  obtain ⟨-, rfl⟩ := SessionCache.key_inj.mp hkey
  exact Envelope.nonce_of_wrap hlength hlength' hwrap hwrap'

def Service.HasNonce (s : Service) (nonce : List UInt8) : Prop := ∃ entry ∈ s.sessions, IsNonceOf nonce entry.1

theorem Service.HasNonce.mono {s t : Service} {nonce : List UInt8} (h : s.HasNonce nonce)
    (hsub : s.sessions ⊆ t.sessions) : t.HasNonce nonce := by
  obtain ⟨entry, he, hnonce⟩ := h
  exact ⟨entry, hsub he, hnonce⟩

/-! ## One login -/

structure Visit where
  before : Service
  settings : Settings
  request : Login.Request
  notify : Bool

namespace Visit

def answer (v : Visit) : Except Failure (Answer Login.Response) :=
  ((Login.run v.settings v.request v.notify).exec v.before).1

def after (v : Visit) : Service := ((Login.run v.settings v.request v.notify).exec v.before).2

def drawn (v : Visit) : List (List UInt8) :=
  (List.range' (v.before.seals + 1) (v.after.seals - v.before.seals)).map Envelope.countedNonce

/-- All sessions stay, in their order and with their payloads, and a login that ends well with a working cache
adds one, under a key that none of them has. -/
structure IsApart (v : Visit) : Prop where
  keeps : v.before.sessions <+: v.after.sessions
  adds : ∀ response, v.answer = .ok (.ok response) → SessionCache.Heeds v.before .cacheSet →
    ∃ entry, entry.1 = SessionCache.key response.user.id response.sealedToken ∧
      (∀ other ∈ v.before.sessions, other.1 ≠ entry.1) ∧ v.after.sessions = v.before.sessions ++ [entry]

variable {v : Visit}

theorem drawn_of_adds {response : Login.Response} {entry : String × CacheEntry}
    (h : Login.Adds v.settings v.before response entry v.after) :
    v.drawn = [Envelope.countedNonce (v.before.seals + 1)] := by
  rw [drawn, h.seals, Nat.add_sub_cancel_left]
  rfl

theorem nonce_of_adds {response : Login.Response} {entry : String × CacheEntry}
    (h : Login.Adds v.settings v.before response entry v.after) :
    IsNonceOf (Envelope.countedNonce (v.before.seals + 1)) entry.1 := by
  obtain ⟨user, huser⟩ := h.shown
  exact ⟨BigEndian.length_bytes _ _, user, v.settings.sealKey, response.accessToken, response.sealedToken, h.sealed,
    by rw [h.key, huser]⟩

/-- A new entry comes behind the sessions that are there, none of which has its nonce. -/
theorem sessions_of_adds (hnow : v.after.now = v.before.now)
    (hfresh : ∀ nonce ∈ v.drawn, ¬ v.before.HasNonce nonce) {response : Login.Response}
    {entry : String × CacheEntry} (h : Login.Adds v.settings v.before response entry v.after) :
    (∀ other ∈ v.before.sessions, other.1 ≠ entry.1) ∧ v.after.sessions = v.before.sessions ++ [entry] := by
  have hother : ∀ other ∈ v.before.sessions, other.1 ≠ entry.1 := by
    intro other hmem hsame
    have hnonce := nonce_of_adds h
    rw [← hsame] at hnonce
    refine hfresh _ ?_ ⟨other, hmem, hnonce⟩
    rw [drawn_of_adds h]
    exact List.mem_singleton_self _
  refine ⟨hother, ?_⟩
  rw [Service.sessions, hnow, h.cache]
  exact Cache.live_put hother h.live

/-- What one login does if its nonce is new, and whose nonces are in the cache afterwards. -/
theorem step (v : Visit) (hfresh : ∀ nonce ∈ v.drawn, ¬ v.before.HasNonce nonce) :
    v.IsApart ∧ ∀ nonce, v.after.HasNonce nonce → v.before.HasNonce nonce ∨ nonce ∈ v.drawn := by
  obtain ⟨hnow, ⟨hcache, hbroken⟩ | ⟨response, entry, hanswer, hadds⟩⟩ :=
    Login.run_adds v.settings v.request v.notify v.before
  · have hsame : v.after.sessions = v.before.sessions := by
      rw [Service.sessions, Service.sessions]
      exact congrArg₂ Cache.live (congrArg Instant.wholeSeconds hnow) hcache
    refine ⟨⟨by rw [hsame], fun response h hheeds => absurd hheeds (hbroken response h)⟩, ?_⟩
    intro nonce h
    exact .inl (h.mono fun _ he => hsame ▸ he)
  · obtain ⟨hother, hsessions⟩ := sessions_of_adds hnow hfresh hadds
    refine ⟨⟨hsessions ▸ List.prefix_append _ _, fun response' h _ => ⟨entry, ?_, hother, hsessions⟩⟩, ?_⟩
    · cases hanswer.symm.trans h
      exact hadds.key
    · rintro nonce ⟨found, hfound, hnonce⟩
      rw [hsessions, List.mem_append] at hfound
      rcases hfound with hold | hnew
      · exact .inl ⟨found, hold, hnonce⟩
      · rw [List.mem_singleton.mp hnew] at hnonce
        refine .inr ?_
        rw [hnonce.unique (nonce_of_adds hadds), drawn_of_adds hadds]
        exact List.mem_singleton_self _

end Visit

/-! ## Logins one after the other -/

/-- A run of logins from a state on. Before each of them anything may have happened to the service, time may
have passed and sessions may have gone, but no other sessions have come. -/
inductive Logins : Service → List Visit → Prop
  | none (s : Service) : Logins s []
  | next {s : Service} {v : Visit} {rest : List Visit} : v.before.sessions ⊆ s.sessions →
      Logins v.after rest → Logins s (v :: rest)

/-- As long as every nonce is a new one, no login of a run meets the entry of another. -/
theorem Logins.apart {s : Service} {visits : List Visit} (h : Logins s visits)
    (hnodup : (visits.flatMap Visit.drawn).Nodup)
    (hfresh : ∀ nonce ∈ visits.flatMap Visit.drawn, ¬ s.HasNonce nonce) : ∀ v ∈ visits, v.IsApart := by
  induction h with
  | none => exact fun _ hv => by cases hv
  | @next s v rest hsub hrest ih =>
    rw [List.flatMap_cons, List.nodup_append] at hnodup
    obtain ⟨-, hlater, hdisjoint⟩ := hnodup
    simp only [List.flatMap_cons, List.mem_append] at hfresh
    obtain ⟨hapart, hnonces⟩ := v.step fun nonce hn hhas => hfresh nonce (.inl hn) (hhas.mono hsub)
    have hrestApart := ih hlater fun nonce hn hhas => by
      rcases hnonces nonce hhas with hold | hnew
      · exact hfresh nonce (.inr hn) (hold.mono hsub)
      · exact hdisjoint nonce hnew nonce hn rfl
    exact List.forall_mem_cons.mpr ⟨hapart, hrestApart⟩

/-- **Seals never coincide.** Under one key the same seal means the same token and the same nonce. So in a run
of logins of any users, with nonces that differ from each other and from those of the sessions that are
cached at the start, each login keeps all sessions there are and adds its own. What a login draws depends on
the state it finds, and it can be any nonce. -/
theorem logins_share_no_entry :
    (∀ (key : Envelope.Key) (nonce other : List UInt8) (token twin : String), key.raw.length = 32 →
      nonce.length = 12 → other.length = 12 → Envelope.wrap key nonce token = Envelope.wrap key other twin →
        token = twin ∧ nonce = other) ∧
      (∀ (s : Service) (visits : List Visit), Logins s visits → (visits.flatMap Visit.drawn).Nodup →
        (∀ nonce ∈ visits.flatMap Visit.drawn, ¬ s.HasNonce nonce) → ∀ v ∈ visits, v.IsApart) ∧
      ∀ nonce : List UInt8, nonce.length = 12 → ∃ seals, Envelope.countedNonce (seals + 1) = nonce :=
  ⟨fun _ _ _ _ _ hkey hnonce hother h => Envelope.wrap_injective hkey hnonce hother h,
    fun _ _ h hnodup hfresh => h.apart hnodup hfresh, fun _ h => Envelope.exists_countedNonce h⟩

/-! ## Two logins in one second -/

def annVisit (s : Service) : Visit := ⟨s, Login.minute, ⟨Login.ann.email, Login.ann.password⟩, true⟩

noncomputable def annLedger : Ledger :=
  Ledger.empty.opened Login.ann.email ⟨.counted 1, "Passw0rd!", Secret.nextHash (Service.start 0) "Passw0rd!"⟩

structure Service.Awaits (s : Service) : Prop where
  ready : s.IsReady
  plain : s.store.IsPlain
  ledger : annLedger.Describes s.store
  now : s.now = 0
  faults : s.faults = []

namespace Service.Awaits

theorem signedUp : ∃ s : Service, s.Awaits ∧ s.seals = 0 ∧ s.sessions = [] := by
  have hdone : (Operation.signUp Login.ann true).Succeeds (Service.start 0) := .inl rfl
  have hledger : Ledger.empty.after (Service.start 0) [.perform (.signUp Login.ann true)] = annLedger := by
    simp only [Ledger.after, Service.noted, Ledger.note, if_pos hdone]
    rfl
  have hmoves : ∀ move ∈ [Move.perform (.signUp Login.ann true)], move.IsHonest := by
    simp [Move.IsHonest]
  obtain ⟨hready, hplain, hdescribes⟩ :=
    Ledger.Describes.after hmoves (ready_start 0) Store.isPlain_empty Ledger.Describes.empty
  exact ⟨_, ⟨hready, hplain, hledger ▸ hdescribes, rfl, rfl⟩, rfl, rfl⟩

variable {s : Service} (h : s.Awaits)
include h

theorem quiet (call : Call) : s.fault? call = none := by
  rw [fault?, h.faults]
  rfl

theorem answer : ∃ response, (annVisit s).answer = .ok (.ok response) := by
  have hissue : ∃ user token, Login.minute.codec.issue s.now user none = .ok token := by
    rw [h.now]
    exact ⟨"ann", _, Token.issue_sealed "ann" (by decide) (by decide +kernel)⟩
  have hverify : Password.verify "Passw0rd!" (Secret.nextHash (Service.start 0) "Passw0rd!") = true :=
    Password.verify_hash (Password.length_countedSalt 1) rfl
  have hentry : annLedger Login.ann.email = some
      ⟨.counted 1, "Passw0rd!", Secret.nextHash (Service.start 0) "Passw0rd!"⟩ := by
    rw [annLedger]
    exact if_pos rfl
  have hopens : annLedger.Opens Login.ann.email Login.ann.password := ⟨_, "Passw0rd!", hentry, rfl, hverify⟩
  have hkey : Login.minute.sealKey.raw.length = Envelope.keySize := by decide
  obtain ⟨response, t, hrun⟩ := Login.exec_run_opened h.ledger h.plain h.ready
    ⟨h.quiet _, h.quiet _, h.quiet _⟩ hkey hissue (r := ⟨Login.ann.email, Login.ann.password⟩) hopens true
  exact ⟨response, congrArg Prod.fst hrun⟩

/-- She still has her account after a login. -/
theorem after : (annVisit s).after.Awaits := by
  let moves : List Move := [.perform (.logIn Login.minute (annVisit s).request true)]
  have hmoves : ∀ move ∈ moves, move.IsHonest := by simp [moves, Move.IsHonest]
  have hafter : s.after moves = (annVisit s).after := by
    show ((Run.silent (Login.run Login.minute (annVisit s).request true)).exec s).2 = _
    rw [Run.exec_silent]
    rfl
  have hsame : annLedger.after s moves = annLedger := ite_self _
  obtain ⟨hready, hplain, hledger⟩ := Ledger.Describes.after hmoves h.ready h.plain h.ledger
  rw [hafter] at hready hplain hledger
  rw [hsame] at hledger
  have hstep := Login.run_steps h.ready.settled Login.minute (annVisit s).request true
  exact ⟨hready, hplain, hledger, hstep.now.trans h.now, List.eq_nil_of_subset_nil (h.faults ▸ hstep.faults)⟩

end Service.Awaits

/-- A login that ends well draws one nonce, if the cache works. -/
theorem Visit.drawn_of_answer {v : Visit} {response : Login.Response} (h : v.answer = .ok (.ok response))
    (hheeds : SessionCache.Heeds v.before .cacheSet) :
    v.after.seals = v.before.seals + 1 ∧ v.drawn = [Envelope.countedNonce (v.before.seals + 1)] := by
  obtain ⟨-, ⟨-, hbroken⟩ | ⟨_, entry, -, hadds⟩⟩ :=
    Login.run_adds v.settings v.request v.notify v.before
  · exact absurd hheeds (hbroken response h)
  · exact ⟨hadds.seals, Visit.drawn_of_adds hadds⟩

/-- Two logins of one user in one second leave two sessions, also if the tokens are the same. -/
theorem ann_logs_in_twice :
    ∃ (v w : Visit) (first second : Login.Response), w.before = v.after ∧ w.before.now = v.before.now ∧
      v.answer = .ok (.ok first) ∧ w.answer = .ok (.ok second) ∧
      (∀ token, Envelope.wrap Login.minute.sealKey (Envelope.countedNonce 1) token ≠
        Envelope.wrap Login.minute.sealKey (Envelope.countedNonce 2) token) ∧
      w.after.sessions.map (·.1) = [SessionCache.key first.user.id first.sealedToken,
        SessionCache.key second.user.id second.sealedToken] := by
  obtain ⟨s, hs, hseals, hempty⟩ := Service.Awaits.signedUp
  have ht := hs.after
  have hworks {u : Service} (h : u.Awaits) : SessionCache.Heeds u .cacheSet :=
    SessionCache.heeds_unarmed (h.quiet _)
  obtain ⟨first, hfirst⟩ := hs.answer
  obtain ⟨second, hsecond⟩ := ht.answer
  obtain ⟨hdrawn, hnonce⟩ := Visit.drawn_of_answer hfirst (hworks hs)
  obtain ⟨-, hother⟩ := Visit.drawn_of_answer hsecond (hworks ht)
  have hstart : (annVisit s).before.seals = 0 := hseals
  have hnext : (annVisit (annVisit s).after).before.seals = 1 := by rwa [hstart] at hdrawn
  have hnonces : [annVisit s, annVisit (annVisit s).after].flatMap Visit.drawn =
      [Envelope.countedNonce 1, Envelope.countedNonce 2] := by
    simp only [List.flatMap_cons, List.flatMap_nil, hnonce, hother, hstart, hnext]
    rfl
  have hapart := logins_share_no_entry.2.1 s [annVisit s, annVisit (annVisit s).after]
    (.next (fun _ h => h) (.next (fun _ h => h) (.none _))) (by rw [hnonces]; decide)
    fun nonce _ hhas => by
      obtain ⟨entry, he, -⟩ := hhas
      rw [hempty] at he
      cases he
  obtain ⟨one, hone, -, hstored⟩ := (hapart _ List.mem_cons_self).adds first hfirst (hworks hs)
  obtain ⟨two, htwo, -, hstored'⟩ :=
    (hapart _ (List.mem_cons_of_mem _ List.mem_cons_self)).adds second hsecond (hworks ht)
  have hseal : ∀ token, Envelope.wrap Login.minute.sealKey (Envelope.countedNonce 1) token ≠
      Envelope.wrap Login.minute.sealKey (Envelope.countedNonce 2) token := fun token h =>
    absurd (logins_share_no_entry.1 _ _ _ token token (by decide) (by decide) (by decide) h).2 (by decide)
  refine ⟨annVisit s, annVisit (annVisit s).after, first, second, rfl, ht.now.trans hs.now.symm, hfirst, hsecond,
    hseal, ?_⟩
  have hbetween : (annVisit (annVisit s).after).before.sessions = [one] := by
    show (annVisit s).after.sessions = [one]
    rw [hstored, show (annVisit s).before.sessions = [] from hempty, List.nil_append]
  rw [hstored', hbetween, ← hone, ← htwo]
  rfl

end Gatehouse
