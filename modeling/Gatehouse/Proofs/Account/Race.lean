import Gatehouse.Proofs.Account.Writes
import Gatehouse.Proofs.Directory.Insertion
import Gatehouse.Proofs.Service.Settled
import Gatehouse.Proofs.Service.Twin
import Gatehouse.Proofs.Session.Gate

/-!
# Signups for an email that is taken

The check for a taken email may be out of date. Then the rows are turned away when they go in, the
transaction is rolled back, and the answer is the one that the check would have given. The next signup
finds the transaction as a fresh one.
-/

namespace Gatehouse.Signup

open Run Service

variable {s : Service} {r : Request}

/-! ## Past the check -/

def nextAccount (s : Service) (r : Request) : User × Profile :=
  (newUser s.now (nextUser s) r, newProfile s.now (nextUser s) r)

def nextProvider (s : Service) (plain : String) (r : Request) : Provider :=
  newProvider s.now (.counted (s.ids + 2)) (nextUser s) (Secret.nextHash s plain) r

def supplied (s : Service) : Service := { s with hashes := s.hashes + 1, ids := s.ids + 2 }

def concluded (r : Request) (account : User × Profile) :
    Except Failure Bool → Run (Answer (User × Profile))
  | .ok true => return .ok account
  | .ok false => throw .missingAttribute
  | .error failure =>
    if failure.isIntegrity then do
      log .warning ("Signup lost email uniqueness race for " ++ r.email)
      rollback
      return .error .emailAlreadyExists
    else throw failure

/-- Once the check says that the email is free, all that can go wrong is the insertion. -/
theorem exec_register_unheld {t : Service} {plain : String}
    (hfree : (Directory.holds (.email r.email)).exec s = (.ok false, t)) (hp : r.password = .whole plain) :
    (register r).exec s =
      (attempt (insertAndCommit (nextAccount t r).1 (nextAccount t r).2 (nextProvider t plain r)) >>=
        concluded r (nextAccount t r)).exec (supplied t) := by
  rw [register, exec_bind_ok hfree, hp]
  simp only [Bool.false_eq_true, if_false]
  refine (exec_bind_ok (Secret.exec_hash_whole t plain) _).trans ?_
  refine (exec_bind_ok exec_get _).trans ?_
  refine (exec_bind_ok (exec_drawId _) _).trans ?_
  refine (exec_bind_ok (exec_drawId _) _).trans ?_
  rfl

/-! ## Taken emails -/

/-- A good password for an email that somebody has, deleted or not, and what the check says of it. -/
structure Contested (s : Service) (r : Request) (value : Json) : Prop where
  settled : s.IsSettled
  taken : s.store.emailExists r.email = true
  strong : Password.weakness r.password = none
  heard : (Directory.Check.email r.email).heard? s = some value
  inserts : s.fault? .createUser = none

/-- A password that has to be hashed, since the check says that the email is free, and has no bytes. -/
def Unhashable (r : Request) (value : Json) : Prop :=
  value.isTruthy = false ∧ ∃ codes, r.password = .torn codes

theorem exec_insertAndCommit_taken {user : User} (profile : Profile) (provider : Provider)
    (hopen : s.transaction.failed = false) (hworks : s.fault? .createUser = none)
    (htaken : s.transaction.rows.emailExists user.email = true) :
    (insertAndCommit user profile provider).exec s =
      (.error .violation, { s with transaction := ⟨s.store, true⟩ }) := by
  have hinsert : (insert fun check rows => rows.addAccount? check user profile provider).exec s =
      (.error .violation, { s with transaction := ⟨s.store, true⟩ }) := by
    rw [exec_insert hopen, Store.addAccount?_taken htaken]
  have hcreate : (Directory.createUser user profile provider).exec s =
      (.error .violation, { s with transaction := ⟨s.store, true⟩ }) := by
    rw [Directory.createUser, exec_guarded, hworks]
    exact exec_bind_error hinsert _
  rw [insertAndCommit, exec_bind_error hcreate]

def outrun (s : Service) (r : Request) : Service :=
  { s.disarm .userExistsByEmail with
    hashes := s.hashes + 1
    ids := s.ids + 2
    logs := s.logs ++ [⟨.warning, "Signup lost email uniqueness race for " ++ r.email⟩] }

section
variable {value : Json} (h : Contested s r value)
include h

theorem exec_register_seen (hvalue : value.isTruthy = true) :
    (register r).exec s = (.ok (.error .emailAlreadyExists), s.disarm .userExistsByEmail) := by
  rw [register, exec_bind_ok (Directory.exec_holds_heard h.settled h.heard), hvalue]
  rfl

theorem exec_register_torn (hvalue : value.isTruthy = false) {codes : List Nat}
    (hp : r.password = .torn codes) :
    (register r).exec s = (.error .unencodable, s.disarm .userExistsByEmail) := by
  rw [register, exec_bind_ok (Directory.exec_holds_heard h.settled h.heard), hvalue, hp]
  rfl

theorem exec_register_outrun (hvalue : value.isTruthy = false) {plain : String}
    (hp : r.password = .whole plain) :
    (register r).exec s = (.ok (.error .emailAlreadyExists), outrun s r) := by
  let t := s.disarm .userExistsByEmail
  have htransaction : (supplied t).transaction = ⟨s.store, false⟩ := h.settled
  have hinserts : (supplied t).fault? .createUser = none :=
    (outside_disarm s .userExistsByEmail).unarmed h.inserts
  have htaken : (supplied t).transaction.rows.emailExists (nextAccount t r).1.email = true := by
    rw [htransaction]
    exact h.taken
  have hinsert := exec_insertAndCommit_taken (nextAccount t r).2 (nextProvider t plain r)
    (by rw [htransaction]) hinserts htaken
  have hattempt : (attempt (insertAndCommit (nextAccount t r).1 (nextAccount t r).2
      (nextProvider t plain r))).exec (supplied t) =
        (.ok (.error .violation), { supplied t with transaction := ⟨s.store, true⟩ }) := by
    rw [exec_attempt, hinsert]
    rfl
  have hrolledBack : { outrun s r with transaction := ⟨s.store, false⟩ } = outrun s r := by
    rw [← h.settled]
    rfl
  have hfree : (Directory.holds (.email r.email)).exec s = (.ok false, t) := by
    rw [Directory.exec_holds_heard h.settled h.heard, hvalue]
    rfl
  rw [exec_register_unheld hfree hp, exec_bind_ok hattempt, ← hrolledBack]
  rfl

theorem exec_register_contested : ∃ t, Unseen s t ∧ t.IsSettled ∧ t.fault? .userExistsByEmail = none ∧
    (Unhashable r value ∧ (register r).exec s = (.error .unencodable, t) ∨
      ¬ Unhashable r value ∧ (register r).exec s = (.ok (.error .emailAlreadyExists), t)) := by
  have hused : Unseen s (s.disarm .userExistsByEmail) := Frame.disarm s _
  have hprobes := fault?_disarmed s .userExistsByEmail
  cases hvalue : value.isTruthy with
  | true =>
    refine ⟨_, hused, h.settled, hprobes, .inr ⟨?_, exec_register_seen h hvalue⟩⟩
    intro ⟨hfree, _⟩
    cases hvalue.symm.trans hfree
  | false =>
    cases hp : r.password with
    | torn codes =>
      exact ⟨_, hused, h.settled, hprobes, .inl ⟨⟨hvalue, codes, hp⟩, exec_register_torn h hvalue hp⟩⟩
    | whole plain =>
      have hleft : Unseen s (outrun s r) := ⟨⟨rfl, rfl, rfl, rfl, rfl, hused.faults⟩, rfl⟩
      refine ⟨_, hleft, h.settled, hprobes, .inr ⟨?_, exec_register_outrun h hvalue hp⟩⟩
      intro ⟨_, codes, htorn⟩
      cases hp.symm.trans htorn

theorem exec_run_contested (notify : Bool) : ∃ t, Unseen s t ∧ t.IsSettled ∧
    t.fault? .userExistsByEmail = none ∧ ((register r).exec s).2 = t ∧
    (Unhashable r value ∧ (run r notify).exec s = (.error .unencodable, t) ∨
      ¬ Unhashable r value ∧ (run r notify).exec s = (.ok (.error .emailAlreadyExists), t)) := by
  obtain ⟨t, hunseen, hsettled, hprobes, hends⟩ := exec_register_contested h
  have hclosed : (inTransaction (register r)).exec s = (((register r).exec s).1, t) := by
    rcases hends with ⟨-, hregister⟩ | ⟨-, hregister⟩
    · rw [exec_inTransaction, hregister, hsettled.rolledBack]
    · rw [exec_inTransaction, hregister, hsettled.rolledBack]
  refine ⟨t, hunseen, hsettled, hprobes, ?_⟩
  rw [run, h.strong]
  rcases hends with ⟨htorn, hregister⟩ | ⟨hhashable, hregister⟩
  · rw [hregister] at hclosed ⊢
    exact ⟨rfl, .inl ⟨htorn, exec_bind_error hclosed _⟩⟩
  · rw [hregister] at hclosed ⊢
    exact ⟨rfl, .inr ⟨hhashable, exec_bind_ok hclosed _⟩⟩

end

/-! ## Free emails -/

def nextStore (s : Service) (plain : String) (r : Request) : Store :=
  s.store.withAccount (nextAccount s r).1 (nextAccount s r).2 (nextProvider s plain r)

structure IsFresh (s : Service) (r : Request) : Prop where
  email : s.store.emailExists r.email = false
  user : ∀ u ∈ s.store.users, u.id ≠ nextUser s
  profile : ∀ p ∈ s.store.profiles, p.userId ≠ nextUser s
  provider : ∀ a ∈ s.store.providers, a.id ≠ .counted (s.ids + 2) ∧ a.userId ≠ nextUser s

theorem addAccount?_next (h : IsFresh s r) (plain : String) :
    s.store.addAccount? s.references (nextAccount s r).1 (nextAccount s r).2 (nextProvider s plain r) =
      some (nextStore s plain r) := by
  refine Store.addAccount?_linked rfl (fun v hv => ⟨h.user v hv, ?_⟩) h.profile h.provider rfl rfl
  have hfree := h.email
  rw [Store.emailExists, List.any_eq_false] at hfree
  have hother : v.email ≠ r.email := by simpa using hfree v hv
  exact hother

def joined (s : Service) (plain : String) (r : Request) (notify : Bool) : Service :=
  { s with
    hashes := s.hashes + 1
    ids := s.ids + 2
    store := nextStore s plain r
    transaction := ⟨nextStore s plain r, false⟩
    events := s.events ++ sent notify ⟨infoOf (nextAccount s r)⟩ }

theorem exec_insertAndCommit_free {user : User} {profile : Profile} {provider : Provider} {rows : Store}
    (hopen : s.transaction.failed = false) (hinserts : s.fault? .createUser = none)
    (hcommits : s.fault? .commit = none)
    (h : s.transaction.rows.addAccount? s.references user profile provider = some rows) :
    (insertAndCommit user profile provider).exec s =
      (.ok true, { s with store := rows, transaction := ⟨rows, false⟩ }) := by
  have hcreate : (Directory.createUser user profile provider).exec s =
      (.ok true, { s with transaction := ⟨rows, false⟩ }) := by
    rw [Directory.createUser, exec_guarded, hinserts]
    exact exec_bind_ok (Directory.exec_insertion hopen h) _
  have hcommit : commit.exec { s with transaction := ⟨rows, false⟩ } =
      (.ok (), { s with store := rows, transaction := ⟨rows, false⟩ }) :=
    Directory.exec_commit rfl hcommits
  rw [insertAndCommit, exec_bind_ok hcreate, exec_bind_ok hcommit]
  rfl

section
variable (hsettled : s.IsSettled) (hprobes : s.fault? .userExistsByEmail = none)
  (hinserts : s.fault? .createUser = none) (hcommits : s.fault? .commit = none) (hfresh : IsFresh s r)
include hsettled hprobes hinserts hcommits hfresh

theorem exec_register_joined {plain : String} (hp : r.password = .whole plain) :
    (register r).exec s = (.ok (.ok (nextAccount s r)), joined s plain r false) := by
  have htransaction : (supplied s).transaction = ⟨s.store, false⟩ := hsettled
  have hrows : (supplied s).transaction.rows.addAccount? (supplied s).references (nextAccount s r).1
      (nextAccount s r).2 (nextProvider s plain r) = some (nextStore s plain r) := by
    rw [htransaction]
    exact addAccount?_next hfresh plain
  have hopen : (supplied s).transaction.failed = false := by rw [htransaction]
  have hinsert := exec_insertAndCommit_free hopen hinserts hcommits hrows
  have hattempt : (attempt (insertAndCommit (nextAccount s r).1 (nextAccount s r).2
      (nextProvider s plain r))).exec (supplied s) = (.ok (.ok true), joined s plain r false) := by
    rw [exec_attempt, hinsert, joined, sent]
    simp only [Bool.false_eq_true, if_false, List.append_nil]
    rfl
  have hfree : (Directory.holds (.email r.email)).exec s = (.ok false, s) := by
    rw [Directory.exec_holds (c := .email r.email) hsettled hprobes]
    exact congrArg (fun free => (Except.ok free, s)) hfresh.email
  rw [exec_register_unheld hfree hp]
  exact exec_bind_ok hattempt _

theorem exec_run_joined {plain : String} (hp : r.password = .whole plain)
    (hstrong : Password.weakness r.password = none) (notify : Bool) :
    (run r notify).exec s = (.ok (.ok ⟨infoOf (nextAccount s r)⟩), joined s plain r notify) := by
  have hregister : (inTransaction (register r)).exec s =
      (.ok (.ok (nextAccount s r)), joined s plain r false) := by
    rw [exec_inTransaction, exec_register_joined hsettled hprobes hinserts hcommits hfresh hp]
    rfl
  rw [run, hstrong]
  simp only
  rw [exec_bind_ok hregister]
  cases notify with
  | false => rfl
  | true =>
    simp only [joined, sent, Bool.false_eq_true, if_false, List.append_nil]
    rfl

end

/-! ## A race and the next signup -/

/-- **The constraint backs up the check.** Whoever has the email and whatever the check says of it, a signup
is told that it is taken, except for a password without bytes that the check lets through. Nothing is left
behind, in the transaction neither, and the next signup with a free email succeeds on it. -/
theorem constraint_backs_check {value : Json} (h : Contested s r value) (notify : Bool) :
    let ends := (run r notify).exec s
    (¬ Unhashable r value → ends.1 = .ok (.error .emailAlreadyExists)) ∧
      (Unhashable r value → ends.1 = .error .unencodable) ∧
      Unseen s ends.2 ∧ ((register r).exec s).2 = ends.2 ∧ ends.2.IsSettled ∧
      (s.fault? .commit = none → ∀ next plain again, next.password = .whole plain →
        Password.weakness next.password = none → IsFresh ends.2 next →
          (run next again).exec ends.2 = (.ok (.ok ⟨infoOf (nextAccount ends.2 next)⟩),
            joined ends.2 plain next again)) := by
  intro ends
  obtain ⟨t, hunseen, hsettled, hprobes, hregister, hends⟩ := exec_run_contested h notify
  have hstate : ends.2 = t := by
    rcases hends with ⟨-, hrun⟩ | ⟨-, hrun⟩
    · exact congrArg Prod.snd hrun
    · exact congrArg Prod.snd hrun
  rw [hstate]
  refine ⟨fun hhashable => ?_, fun htorn => ?_, hunseen, hregister, hsettled,
    fun hcommits next plain again hp hstrong hfresh => ?_⟩
  · rcases hends with ⟨htorn, -⟩ | ⟨-, hrun⟩
    · exact absurd htorn hhashable
    · exact congrArg Prod.fst hrun
  · rcases hends with ⟨-, hrun⟩ | ⟨hhashable, -⟩
    · exact congrArg Prod.fst hrun
    · exact absurd htorn hhashable
  · exact exec_run_joined hsettled hprobes (hunseen.unarmed h.inserts) (hunseen.unarmed hcommits) hfresh hp
      hstrong again

/-! ## Ann again -/

/-- The visitor has the email, and the check says that nobody has. -/
def stale : Service :=
  let rows := { Store.empty with users := [Gate.visitor] }
  { Service.start 0 with
    ids := 1
    store := rows
    transaction := ⟨rows, false⟩
    faults := [(.userExistsByEmail, .answers (.bool false))] }

def ann : Request := ⟨Gate.visitor.email, .whole "Passw0rd!", "Ann", "Lee"⟩

def bob : Request := ⟨"bob@example.com", .whole "Passw0rd!", "Bob", "Lee"⟩

theorem contested_stale {password : RawText} (h : Password.weakness password = none) :
    Contested stale { ann with password := password } (.bool false) :=
  ⟨rfl, rfl, h, rfl, rfl⟩

/-- Ann is told that her email is taken, and bob signs up after her. -/
theorem bob_joins_after_race :
    let after := ((run ann true).exec stale).2
    ((run ann true).exec stale).1 = .ok (.error .emailAlreadyExists) ∧ after.store = stale.store ∧
      after.events = [] ∧ (run bob true).exec after =
        (.ok (.ok ⟨infoOf (nextAccount after bob)⟩), joined after "Passw0rd!" bob true) := by
  intro after
  have hhashable : ¬ Unhashable ann (.bool false) := fun ⟨_, codes, htorn⟩ => by cases htorn
  have hstrong : Password.weakness ann.password = none := by decide +kernel
  obtain ⟨htold, -, hunseen, -, -, hnext⟩ := constraint_backs_check (contested_stale hstrong) true
  have hfresh : IsFresh after bob := by
    constructor <;> decide +kernel
  exact ⟨htold hhashable, hunseen.store, hunseen.events, hnext rfl bob _ true rfl hstrong hfresh⟩

/-- With half of a surrogate pair in her password she is told nothing at all. -/
theorem torn_password_breaks_race :
    let torn : Request := { ann with password := .torn ("Passw0rd!".toList.map (·.toNat) ++ [0xD800]) }
    Password.weakness torn.password = none ∧ Contested stale torn (.bool false) ∧
      ((run torn true).exec stale).1 = .error .unencodable := by
  intro torn
  have hstrong : Password.weakness torn.password = none := by decide +kernel
  have h : Contested stale torn (.bool false) := contested_stale hstrong
  refine ⟨hstrong, h, ?_⟩
  obtain ⟨t, -, -, -, -, ⟨-, hrun⟩ | ⟨hhashable, -⟩⟩ := exec_run_contested h true
  · rw [hrun]
  · exact absurd ⟨rfl, _, rfl⟩ hhashable

end Gatehouse.Signup
