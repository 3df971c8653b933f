import Gatehouse.Proofs.Account.Credentials
import Gatehouse.Proofs.Account.Passwords
import Gatehouse.Proofs.Account.Session
import Gatehouse.Proofs.Session.Gate

/-!
# Refused logins

A login is refused before anything is written. Once its time is noted, what is left to do either succeeds
or fails as a whole: the key has been checked at the start, and the user who was found is still there.
-/

namespace Gatehouse

open Run Service

theorem Store.userByEmail?_eq_none_iff {rows : Store} {email : String} : rows.userByEmail? email = none ↔
    ∀ user ∈ rows.users, user.email = email → user.status = .deleted := by
  simp [userByEmail?, isDeleted]

namespace Login

variable {settings : Settings} {s t : Service} {r : Request}

/-! ## Before the first write -/

theorem decided_ok {rows : Store} {id : Uuid} (h : decided rows r = .ok id) :
    ∃ user ∈ rows.users, user.status = .active ∧ user.id = id := by
  unfold decided at h
  split at h
  · cases h
  · rename_i user hfound
    split at h
    · cases h
    · rename_i hactive
      split at h
      · cases h
        exact ⟨user, List.mem_of_find?_eq_some hfound, not_not.mp hactive, rfl⟩
      · cases h

/-- No password makes a difference for who is not active. -/
theorem decided_inactive_iff {rows : Store} : decided rows r = .error .userInactive ↔
    ∃ user, rows.userByEmail? r.email = some user ∧ user.status ≠ .active := by
  unfold decided
  split
  · rename_i hnone
    constructor
    · intro h
      cases h
    · intro ⟨user, hfound, _⟩
      rw [hnone] at hfound
      cases hfound
  · rename_i user hfound
    rw [hfound]
    constructor
    · intro h
      split at h
      · rename_i hinactive
        exact ⟨user, rfl, hinactive⟩
      · split at h <;> cases h
    · intro ⟨_, hsame, hinactive⟩
      cases hsame
      rw [if_pos hinactive]

/-- Why credentials prove nothing: nobody has the email, whoever has it is deleted, no provider or no hash is
kept for the user, or what is kept, however garbled, is no hash of the password. -/
inductive Unproven (rows : Store) (r : Request) : Prop where
  | unknown (hemail : rows.emailExists r.email = false)
  | deleted (hemail : rows.emailExists r.email = true)
      (hdeleted : ∀ user ∈ rows.users, user.email = r.email → user.status = .deleted)
  | unprovided {user : User} (hfound : rows.userByEmail? r.email = some user) (hactive : user.status = .active)
      (hprovider : rows.providerOf? user.id .localPassword = none)
  | unhashed {user : User} {provider : Provider} (hfound : rows.userByEmail? r.email = some user)
      (hactive : user.status = .active) (hprovider : rows.providerOf? user.id .localPassword = some provider)
      (hhash : provider.passwordHash = none)
  | mismatched {user : User} {provider : Provider} {hash : String}
      (hfound : rows.userByEmail? r.email = some user) (hactive : user.status = .active)
      (hprovider : rows.providerOf? user.id .localPassword = some provider)
      (hhash : provider.passwordHash = some hash)
      (hwrong : ∀ plain, r.password = .whole plain → Password.verify plain hash = false)

theorem unproven_of_not_found {rows : Store} (h : rows.userByEmail? r.email = none) : Unproven rows r := by
  cases hemail : rows.emailExists r.email with
  | false => exact .unknown hemail
  | true => exact .deleted hemail (Store.userByEmail?_eq_none_iff.mp h)

theorem unproven_of_closed {rows : Store} {user : User} (hfound : rows.userByEmail? r.email = some user)
    (hactive : user.status = .active)
    (h : Secret.opens r.password (rows.providerOf? user.id .localPassword) ≠ true) : Unproven rows r := by
  cases hprovider : rows.providerOf? user.id .localPassword with
  | none => exact .unprovided hfound hactive hprovider
  | some provider =>
    rw [hprovider] at h
    cases hhash : provider.passwordHash with
    | none => exact .unhashed hfound hactive hprovider hhash
    | some hash =>
      refine .mismatched hfound hactive hprovider hhash fun plain hpassword => ?_
      exact Bool.eq_false_iff.mpr fun hverify => h ((Secret.opens_iff hhash).mpr ⟨plain, hpassword, hverify⟩)

theorem decided_closed {rows : Store} {user : User} (hfound : rows.userByEmail? r.email = some user)
    (hactive : user.status = .active)
    (h : Secret.opens r.password (rows.providerOf? user.id .localPassword) ≠ true) :
    decided rows r = .error .invalidCredentials := by
  rw [decided, hfound]
  simp only [hactive, ne_eq, not_true_eq_false, if_false]
  exact if_neg h

/-- All of these reasons, and no other, are told as invalid credentials. -/
theorem decided_invalid_iff {rows : Store} : decided rows r = .error .invalidCredentials ↔ Unproven rows r := by
  constructor
  · intro h
    unfold decided at h
    split at h
    · rename_i hnone
      exact unproven_of_not_found hnone
    · rename_i user hfound
      split at h
      · cases h
      · rename_i hactive
        split at h
        · cases h
        · rename_i hclosed
          exact unproven_of_closed hfound (not_not.mp hactive) hclosed
  · rintro (hemail | ⟨-, hdeleted⟩ | ⟨hfound, hactive, hprovider⟩ | ⟨hfound, hactive, hprovider, hhash⟩ |
      ⟨hfound, hactive, hprovider, hhash, hwrong⟩)
    · have hnone : rows.userByEmail? r.email = none := by
        refine Store.userByEmail?_eq_none_iff.mpr fun user hmem hsame => ?_
        exact absurd (beq_iff_eq.mpr hsame) (by simpa using List.any_eq_false.mp hemail user hmem)
      rw [decided, hnone]
    · rw [decided, Store.userByEmail?_eq_none_iff.mpr hdeleted]
    · refine decided_closed hfound hactive ?_
      rw [hprovider]
      cases r.password <;> exact Bool.false_ne_true
    · refine decided_closed hfound hactive ?_
      rw [hprovider]
      cases r.password <;> simp [Secret.opens, RawText.whole?, hhash]
    · refine decided_closed hfound hactive ?_
      rw [hprovider, ne_eq, Secret.opens_iff hhash]
      rintro ⟨plain, hpassword, hverify⟩
      exact Bool.false_ne_true ((hwrong plain hpassword).symm.trans hverify)

/-! ## After the first write -/

theorem openSession_never_refuses (hkey : settings.sealKey.raw.length = Envelope.keySize) {u : Service}
    {rows : Store} (hopen : u.transaction = ⟨rows, false⟩) (hworks : u.fault? .userWithWorkspaces = none)
    {user : Uuid} {found : User} (hfound : rows.userById? user = some found) (now : Instant) (token : String)
    {refusal : Refusal} : (openSession settings user now token).exec u ≠ (.ok (.error refusal), t) := by
  intro h
  obtain ⟨sealed, hseal⟩ := exec_sealToken (s := u) hkey token
  have hload : (Directory.userWithWorkspaces user).exec { u with seals := u.seals + 1 } =
      (.ok (some (rows.load found)), { u with seals := u.seals + 1 }) := by
    have hlooked := Directory.exec_lookup (s := { u with seals := u.seals + 1 }) hopen hworks
      fun rows => (rows.userById? user).map rows.load
    rw [hfound] at hlooked
    exact hlooked
  rw [openSession, exec_bind_ok hseal] at h
  simp only at h
  rw [exec_bind_ok hload] at h
  obtain ⟨snapshot, v, -, h⟩ := exec_bind_eq_ok.mp h
  obtain ⟨info, w, -, h⟩ := exec_bind_eq_ok.mp h
  cases h

/-- Whoever is identified is not refused any more, whatever becomes of the time of the login. -/
theorem begin_never_refuses (hsettled : s.IsSettled) (hlook : CanLook s)
    (hkey : settings.sealKey.raw.length = Envelope.keySize) {id : Uuid} (hid : decided s.store r = .ok id)
    {refusal : Refusal} : (begin settings r).exec s ≠ (.ok (.error refusal), t) := by
  intro h
  have hidentify := exec_identify hsettled hlook.byEmail hlook.provider r
  rw [hid] at hidentify
  obtain ⟨user, hmem, hactive, rfl⟩ := decided_ok hid
  rw [begin, exec_bind_ok hidentify] at h
  obtain ⟨_, u, htouch, h⟩ := exec_bind_eq_ok.mp h
  have hattempted := ((touch_attempts hsettled user.id).ended htouch).2
  obtain ⟨rows, hopen, hstamped⟩ := hattempted.rows
  have htouched : Touched s rows := hstamped.imp_right fun hrows => ⟨user.id, hrows⟩
  obtain ⟨found, hfound⟩ := htouched.userById? hmem (by rw [hactive]; decide)
  rw [exec_bind_ok exec_get] at h
  obtain ⟨token, v, hissued, h⟩ := exec_bind_eq_ok.mp h
  obtain ⟨-, rfl⟩ := exec_ofExcept_eq_ok.mp hissued
  exact openSession_never_refuses hkey hopen (hattempted.outside.unarmed hlook.loaded) hfound _ token h

theorem run_refused_iff (hsettled : s.IsSettled) (hlook : CanLook s)
    (hkey : settings.sealKey.raw.length = Envelope.keySize) (notify : Bool) {refusal : Refusal} :
    (run settings r notify).exec s = (.ok (.error refusal), t) ↔ decided s.store r = .error refusal ∧ s = t := by
  constructor
  · intro h
    cases hdecided : decided s.store r with
    | error other =>
      cases (exec_run_decided hsettled hlook.byEmail hlook.provider hdecided settings notify).symm.trans h
      exact ⟨rfl, rfl⟩
    | ok id =>
      obtain ⟨answer, u, hclosed, hafter⟩ := exec_bind_eq_ok.mp h
      cases answer with
      | error other =>
        rw [exec_inTransaction] at hclosed
        have hbegin : (begin settings r).exec s = (.ok (.error other), ((begin settings r).exec s).2) :=
          Prod.ext (Prod.mk.inj hclosed).1 rfl
        exact absurd hbegin (begin_never_refuses hsettled hlook hkey hdecided)
      | ok session =>
        obtain ⟨v, hrun, -⟩ := exec_run_begun hclosed notify
        cases hrun.symm.trans h
  · intro ⟨hdecided, hsame⟩
    subst hsame
    exact exec_run_decided hsettled hlook.byEmail hlook.provider hdecided settings notify

/-- **A refused login changes nothing.** It is told that the user is inactive just when a user with this
email is there and not active, whatever the password. -/
theorem refused_login_changes_nothing (hsettled : s.IsSettled) (hlook : CanLook s)
    (hkey : settings.sealKey.raw.length = Envelope.keySize) (r : Request) (notify : Bool) :
    (∀ refusal t, (run settings r notify).exec s = (.ok (.error refusal), t) → t = s) ∧
      (((run settings r notify).exec s).1 = .ok (.error .userInactive) ↔
        ∃ user, s.store.userByEmail? r.email = some user ∧ user.status ≠ .active) := by
  refine ⟨fun refusal t h => ((run_refused_iff hsettled hlook hkey notify).mp h).2.symm, ?_⟩
  rw [← decided_inactive_iff]
  constructor
  · intro h
    exact ((run_refused_iff hsettled hlook hkey notify).mp (Prod.ext h rfl)).1
  · intro h
    exact congrArg Prod.fst ((run_refused_iff hsettled hlook hkey notify).mpr ⟨h, rfl⟩)

def barred : Service :=
  let rows := { Store.empty with users := [{ Gate.visitor with status := .suspended }] }
  { Service.start 0 with
    store := rows
    transaction := ⟨rows, false⟩
    cache := [(SessionCache.key Gate.visitor.id.text "s", ⟨"\x7b\x7d", none⟩)] }

theorem barred_visitor_changes_nothing :
    ∃ t, (run minute ⟨Gate.visitor.email, .whole "Passw0rd!"⟩ true).exec barred =
      (.ok (.error .userInactive), t) ∧ t = barred := by
  have hlook : CanLook barred := ⟨rfl, rfl, rfl⟩
  have hsettled : barred.IsSettled := rfl
  have hkey : minute.sealKey.raw.length = Envelope.keySize := by decide +kernel
  obtain ⟨hsame, hinactive⟩ := refused_login_changes_nothing hsettled hlook hkey
    ⟨Gate.visitor.email, .whole "Passw0rd!"⟩ true
  have hbarred := hinactive.mpr ⟨{ Gate.visitor with status := .suspended }, rfl, by decide⟩
  exact ⟨_, Prod.ext hbarred rfl, hsame _ _ (Prod.ext hbarred rfl)⟩

end Login

end Gatehouse
