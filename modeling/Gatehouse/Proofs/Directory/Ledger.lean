import Gatehouse.Proofs.Directory.Soundness
import Gatehouse.Proofs.Password

/-!
# A ledger of passwords

Beside the tables one can keep a ledger: for every email the user who has signed up with it and the
password that was set last. It describes the tables when it lists exactly the users who are not deleted
and has the hashes of their local providers, and it goes on doing so through each kind of write.
-/

namespace Gatehouse

structure Credential where
  user : Uuid
  password : String
  hash : String

def Ledger := String → Option Credential

namespace Credential

structure IsGood (c : Credential) : Prop where
  strong : Password.weakness (.whole c.password) = none
  hash : ∃ n, c.hash = Password.hash (Password.countedSalt n) c.password

theorem IsGood.verify {c : Credential} (h : c.IsGood) {q : String}
    (hsame : Password.keyBytes q = Password.keyBytes c.password) : Password.verify q c.hash = true := by
  obtain ⟨n, hn⟩ := h.hash
  rw [hn]
  exact Password.verify_hash (Password.length_countedSalt n) hsame

def renewed (user : Uuid) (password hash : String) (c : Credential) : Credential :=
  if c.user = user then ⟨c.user, password, hash⟩ else c

theorem user_renewed (user : Uuid) (password hash : String) (c : Credential) :
    (c.renewed user password hash).user = c.user := by
  unfold renewed
  split <;> rfl

end Credential

namespace Ledger

/-! ## Entries -/

def empty : Ledger := fun _ => none

def opened (ledger : Ledger) (email : String) (c : Credential) : Ledger :=
  fun e => if e = email then some c else ledger e

def renewed (ledger : Ledger) (user : Uuid) (password hash : String) : Ledger :=
  fun e => (ledger e).map (·.renewed user password hash)

def closed (ledger : Ledger) (user : Uuid) : Ledger :=
  fun e => (ledger e).filter (·.user ≠ user)

def Opens (ledger : Ledger) (email : String) (password : RawText) : Prop :=
  ∃ c plain, ledger email = some c ∧ password = .whole plain ∧ Password.verify plain c.hash = true

end Ledger

/-! ## Users who are there -/

namespace Store

def Houses (s : Store) (email : String) (id : Uuid) : Prop :=
  ∃ u ∈ s.users, u.email = email ∧ u.id = id ∧ u.status ≠ .deleted

variable {s t : Store} {email : String} {id : Uuid}

theorem houses_append {u : User} (husers : t.users = s.users ++ [u]) (hlive : u.status ≠ .deleted) :
    t.Houses email id ↔ s.Houses email id ∨ u.email = email ∧ u.id = id := by
  constructor
  · rintro ⟨v, hv, hemail, hid, hstatus⟩
    rw [husers, List.mem_append, List.mem_singleton] at hv
    rcases hv with hv | rfl
    · exact .inl ⟨v, hv, hemail, hid, hstatus⟩
    · exact .inr ⟨hemail, hid⟩
  · rintro (⟨v, hv, hv'⟩ | ⟨hemail, hid⟩)
    · refine ⟨v, ?_, hv'⟩
      rw [husers]
      exact List.mem_append_left _ hv
    · refine ⟨u, ?_, hemail, hid, hlive⟩
      rw [husers]
      exact List.mem_append_right _ (List.mem_singleton_self u)

theorem houses_setLastLogin (now : Instant) (user : Uuid) :
    (s.setLastLogin now user).Houses email id ↔ s.Houses email id := by
  have hkeeps := User.keeps_loggedIn now user
  constructor
  · rintro ⟨v, hv, hemail, hid, hstatus⟩
    rw [users_setLastLogin] at hv
    obtain ⟨u, hu, rfl⟩ := List.mem_map.mp hv
    rw [hkeeps.email] at hemail
    rw [hkeeps.id] at hid
    rw [User.status_loggedIn] at hstatus
    exact ⟨u, hu, hemail, hid, hstatus⟩
  · rintro ⟨u, hu, hemail, hid, hstatus⟩
    refine ⟨User.loggedIn now user u, List.mem_map_of_mem hu, (hkeeps.email u).trans hemail,
      (hkeeps.id u).trans hid, ?_⟩
    rw [User.status_loggedIn]
    exact hstatus

theorem houses_softDelete (now : Instant) (user : Uuid) :
    (s.softDelete now user).1.Houses email id ↔ s.Houses email id ∧ id ≠ user := by
  constructor
  · rintro ⟨v, hv, hemail, hid, hstatus⟩
    rw [users_softDelete] at hv
    obtain ⟨u, hu, rfl⟩ := List.mem_map.mp hv
    by_cases hmeant : u.id = user
    · rw [← hmeant, User.status_removed] at hstatus
      exact absurd rfl hstatus
    · rw [User.removed_other now hmeant] at hemail hid hstatus
      exact ⟨⟨u, hu, hemail, hid, hstatus⟩, hid ▸ hmeant⟩
  · rintro ⟨⟨u, hu, hemail, rfl, hstatus⟩, hother⟩
    have hsame := User.removed_other now hother
    refine ⟨u, ?_, hemail, rfl, hstatus⟩
    rw [users_softDelete, ← hsame]
    exact List.mem_map_of_mem hu

theorem userByEmail?_of_mem (hemails : (s.users.map (·.email)).Nodup) {u : User} (hu : u ∈ s.users)
    (hlive : u.status ≠ .deleted) : s.userByEmail? u.email = some u := by
  obtain ⟨v, hv⟩ : ∃ v, s.userByEmail? u.email = some v := by
    rw [userByEmail?, ← Option.isSome_iff_exists, List.find?_isSome]
    exact ⟨u, hu, by simp [isDeleted, hlive]⟩
  have hemail := List.find?_some hv
  simp only [Bool.and_eq_true, beq_iff_eq] at hemail
  rw [hv, List.inj_on_of_nodup_map hemails (List.mem_of_find?_eq_some hv) hu hemail.1]

theorem AccountsFit.provider_unique (h : s.AccountsFit) {u : User} (hu : u ∈ s.users) {p q : Provider}
    (hp : p ∈ s.providers) (hpu : p.userId = u.id) (hpk : p.kind = .localPassword)
    (hq : q ∈ s.providers) (hqu : q.userId = u.id) (hqk : q.kind = .localPassword) : p = q := by
  obtain ⟨only, hfilter, -⟩ := h.provider u hu
  have honly : ∀ x ∈ s.providers, x.userId = u.id → x.kind = .localPassword → x = only := by
    intro x hx hxu hxk
    have hmem : x ∈ s.providers.filter fun p => p.userId == u.id && p.kind == .localPassword := by
      simp [hx, hxu, hxk]
    rw [hfilter] at hmem
    exact List.mem_singleton.mp hmem
  rw [honly p hp hpu hpk, honly q hq hqu hqk]

theorem AccountsFit.providerOf?_of_mem (h : s.AccountsFit) {u : User} (hu : u ∈ s.users) {p : Provider}
    (hp : p ∈ s.providers) (hpu : p.userId = u.id) (hpk : p.kind = .localPassword) :
    s.providerOf? u.id .localPassword = some p := by
  obtain ⟨q, hq⟩ : ∃ q, s.providerOf? u.id .localPassword = some q := by
    rw [providerOf?, ← Option.isSome_iff_exists, List.find?_isSome]
    exact ⟨p, hp, by simp [hpu, hpk]⟩
  have hfound := List.find?_some hq
  simp only [Bool.and_eq_true, beq_iff_eq] at hfound
  rw [hq, h.provider_unique hu (List.mem_of_find?_eq_some hq) hfound.1 hfound.2 hp hpu hpk]

theorem AccountsFit.passwordHash_rehashed (h : s.AccountsFit) (hids : (s.providers.map (·.id)).Nodup)
    {u : User} (hu : u ∈ s.users) {p provider : Provider} (hp : p ∈ s.providers) (hpu : p.userId = u.id)
    (hpk : p.kind = .localPassword) (hmem : provider ∈ s.providers) (hkind : provider.kind = .localPassword)
    (now : Instant) (hash : String) : (Provider.rehashed now provider.id hash p).passwordHash =
      if u.id = provider.userId then some hash else p.passwordHash := by
  rw [Provider.passwordHash_rehashed]
  by_cases hown : u.id = provider.userId
  · have hsame : p = provider := h.provider_unique hu hp hpu hpk hmem hown.symm hkind
    simp [hsame, hown]
  · -- identifiers tell the providers of different users apart
    have hother : p.id ≠ provider.id := by
      intro heq
      rw [List.inj_on_of_nodup_map hids hp hmem heq] at hpu
      exact hown hpu.symm
    simp [hother, hown]

end Store

/-! ## Describing the tables -/

namespace Ledger

/-- The ledger lists the users who are there, with the hashes of their local providers. -/
structure Describes (ledger : Ledger) (s : Store) : Prop where
  users : ∀ email id, s.Houses email id ↔ ∃ c, ledger email = some c ∧ c.user = id
  hash : ∀ email c, ledger email = some c → ∃ p ∈ s.providers,
    p.userId = c.user ∧ p.kind = .localPassword ∧ p.passwordHash = some c.hash
  good : ∀ email c, ledger email = some c → c.IsGood

namespace Describes

variable {ledger : Ledger} {s t : Store}

theorem empty : Ledger.empty.Describes Store.empty := by
  constructor <;> simp [Ledger.empty, Store.empty, Store.Houses]

theorem of_houses (h : ledger.Describes s) (hhouses : ∀ email id, t.Houses email id ↔ s.Houses email id)
    (hproviders : t.providers = s.providers) : ledger.Describes t := by
  refine ⟨fun email id => (hhouses email id).trans (h.users email id), ?_, h.good⟩
  rw [hproviders]
  exact h.hash

theorem opened (h : ledger.Describes s) {u : User} {p : Profile} {a : Provider} {c : Credential}
    (hfresh : ∀ v ∈ s.users, v.id ≠ u.id ∧ v.email ≠ u.email) (hlive : u.status ≠ .deleted)
    (hid : c.user = u.id) (ha : a.userId = u.id) (hkind : a.kind = .localPassword)
    (hhash : a.passwordHash = some c.hash) (hgood : c.IsGood) :
    (ledger.opened u.email c).Describes (s.withAccount u p a) := by
  have hhouses : ∀ email id, (s.withAccount u p a).Houses email id ↔
      s.Houses email id ∨ u.email = email ∧ u.id = id :=
    fun _ _ => Store.houses_append (u := Store.storedUser u) rfl hlive
  refine ⟨fun email id => ?_, fun email d hd => ?_, fun email d hd => ?_⟩
  · rw [hhouses, h.users]
    by_cases he : email = u.email
    · -- nobody else has the email of the new user
      subst he
      have hnone : ¬ ∃ d, ledger u.email = some d ∧ d.user = id := by
        rw [← h.users]
        rintro ⟨v, hv, hemail, -⟩
        exact (hfresh v hv).2 hemail
      simp [Ledger.opened, hnone, hid]
    · simp [Ledger.opened, he, Ne.symm he]
  · by_cases he : email = u.email
    · have hsame : c = d := by simpa [Ledger.opened, he] using hd
      subst hsame
      exact ⟨Store.storedProvider a, List.mem_append_right _ (List.mem_singleton_self _), ha.trans hid.symm,
        hkind, hhash⟩
    · have hold : ledger email = some d := by simpa [Ledger.opened, he] using hd
      obtain ⟨q, hq, hrest⟩ := h.hash email d hold
      exact ⟨q, List.mem_append_left _ hq, hrest⟩
  · by_cases he : email = u.email
    · have hsame : c = d := by simpa [Ledger.opened, he] using hd
      exact hsame ▸ hgood
    · exact h.good email d (by simpa [Ledger.opened, he] using hd)

theorem closed (h : ledger.Describes s) (now : Instant) (user : Uuid) :
    (ledger.closed user).Describes (s.softDelete now user).1 := by
  have hold : ∀ email c, ledger.closed user email = some c → ledger email = some c ∧ c.user ≠ user := by
    intro email c hc
    simpa [Ledger.closed, Option.filter_eq_some_iff] using hc
  refine ⟨fun email id => ?_, fun email c hc => h.hash email c (hold email c hc).1,
    fun email c hc => h.good email c (hold email c hc).1⟩
  rw [Store.houses_softDelete, h.users]
  constructor
  · rintro ⟨⟨c, hc, rfl⟩, hother⟩
    exact ⟨c, by simp [Ledger.closed, hc, hother], rfl⟩
  · rintro ⟨c, hc, rfl⟩
    exact ⟨⟨c, (hold email c hc).1, rfl⟩, (hold email c hc).2⟩

theorem renewed (h : ledger.Describes s) (haccounts : s.AccountsFit)
    (hids : (s.providers.map (·.id)).Nodup) (now : Instant) {user : Uuid} {provider : Provider}
    (hprovider : s.providerOf? user .localPassword = some provider) {password hash : String}
    (hgood : Credential.IsGood ⟨user, password, hash⟩) :
    (ledger.renewed user password hash).Describes (s.setPasswordHash now provider.id hash) := by
  have hmem := List.mem_of_find?_eq_some hprovider
  have hfound := List.find?_some hprovider
  simp only [Bool.and_eq_true, beq_iff_eq] at hfound
  have hold : ∀ email c, ledger.renewed user password hash email = some c →
      ∃ d, ledger email = some d ∧ d.renewed user password hash = c :=
    fun email c hc => Option.map_eq_some_iff.mp hc
  refine ⟨fun email id => ?_, fun email c hc => ?_, fun email c hc => ?_⟩
  · refine (h.users email id).trans ⟨?_, ?_⟩
    · rintro ⟨d, hd, rfl⟩
      exact ⟨d.renewed user password hash, by simp [Ledger.renewed, hd], d.user_renewed user password hash⟩
    · rintro ⟨c, hc, rfl⟩
      obtain ⟨d, hd, rfl⟩ := hold email c hc
      exact ⟨d, hd, (d.user_renewed user password hash).symm⟩
  · obtain ⟨d, hd, rfl⟩ := hold email c hc
    obtain ⟨p, hp, hpu, hpk, hphash⟩ := h.hash email d hd
    obtain ⟨u, hu, -, hid, -⟩ := (h.users email d.user).mpr ⟨d, hd, rfl⟩
    refine ⟨Provider.rehashed now provider.id hash p, List.mem_map_of_mem hp, ?_, ?_, ?_⟩
    · rw [Provider.userId_rehashed, Credential.user_renewed]
      exact hpu
    · rw [Provider.kind_rehashed]
      exact hpk
    · rw [haccounts.passwordHash_rehashed hids hu hp (hpu.trans hid.symm) hpk hmem hfound.2, hid, hfound.1]
      unfold Credential.renewed
      split
      · rfl
      · exact hphash
  · obtain ⟨d, hd, rfl⟩ := hold email c hc
    unfold Credential.renewed
    split
    · exact ⟨hgood.strong, hgood.hash⟩
    · exact h.good email d hd

/-! ## Looking up -/

theorem unknown (h : ledger.Describes s) {email : String} (hnone : ledger email = none) :
    s.userByEmail? email = none := by
  cases hfound : s.userByEmail? email with
  | none => rfl
  | some u =>
    have hmatch := List.find?_some hfound
    simp only [Bool.and_eq_true, beq_iff_eq, Store.isDeleted, Bool.not_eq_true', beq_eq_false_iff_ne] at hmatch
    obtain ⟨c, hc, -⟩ := (h.users email u.id).mp
      ⟨u, List.mem_of_find?_eq_some hfound, hmatch.1, rfl, hmatch.2⟩
    rw [hnone] at hc
    cases hc

theorem known (h : ledger.Describes s) (haccounts : s.AccountsFit) {email : String} {c : Credential}
    (hc : ledger email = some c) : ∃ u ∈ s.users, ∃ p, u.status ≠ .deleted ∧
      s.userByEmail? email = some u ∧ s.providerOf? u.id .localPassword = some p ∧
      p.passwordHash = some c.hash := by
  obtain ⟨u, hu, rfl, hid, hlive⟩ := (h.users email c.user).mpr ⟨c, hc, rfl⟩
  obtain ⟨p, hp, hpu, hpk, hphash⟩ := h.hash u.email c hc
  exact ⟨u, hu, p, hlive, Store.userByEmail?_of_mem haccounts.emails hu hlive,
    haccounts.providerOf?_of_mem hu hp (hpu.trans hid.symm) hpk, hphash⟩

end Describes

end Ledger

end Gatehouse
