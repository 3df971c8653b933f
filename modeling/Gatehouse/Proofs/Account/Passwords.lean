import Gatehouse.Proofs.Account.Absent
import Gatehouse.Proofs.Account.Credentials
import Gatehouse.Proofs.Directory.Ledger
import Gatehouse.Proofs.Service.Soundness
import Gatehouse.Proofs.Token.RoundTrip

/-!
# Who can log in

From the empty store on, the answers of the operations alone tell who can log in with which password. The
ledger takes down what was answered; after every history it describes the tables, so that a login on a
store that can be read is decided by it. A commit that breaks after its work is the one case in which an
operation has done its work and does not say so.
-/

namespace Gatehouse

open Run Service

/-! ## Operations that have done their work -/

/-- The operation said so, or its rows were stored by a commit that broke only afterwards. -/
def Operation.Succeeds (op : Operation) (s : Service) : Prop :=
  (op.run.exec s).1 = .ok (.ok ()) ∨ s.CommitsLate ∧ (op.run.exec s).2.store ≠ s.store

namespace Ledger

/-! ## Keeping the ledger -/

def enter (ledger : Ledger) (s : Service) : Operation → Ledger
  | .signUp r _ =>
    match r.password with
    | .whole plain => ledger.opened r.email ⟨Signup.nextUser s, plain, Secret.nextHash s plain⟩
    | .torn _ => ledger
  | .changePassword r =>
    match r.new with
    | .whole plain => ledger.renewed r.user plain (Secret.nextHash s plain)
    | .torn _ => ledger
  | .remove user => ledger.closed user
  | _ => ledger

open Classical in
noncomputable def note (ledger : Ledger) (s : Service) : Move → Ledger
  | .perform op => if op.Succeeds s then ledger.enter s op else ledger
  | _ => ledger

noncomputable def after (ledger : Ledger) (s : Service) (moves : List Move) : Ledger :=
  Service.noted note ledger s moves

end Ledger

/-! ## Customers only -/

/-- Tables in which signups alone have left their rows: nobody may found a workspace. -/
structure Store.IsPlain (s : Store) : Prop extends IsWhole s where
  customers : ∀ u ∈ s.users, u.globalRole = .customer
  statuses : ∀ u ∈ s.users, u.status = .active ∨ u.status = .deleted
  unshared : s.memberships = []
  providerIds : (s.providers.map (·.id)).Nodup

theorem Store.isPlain_empty : Store.empty.IsPlain := by
  refine ⟨⟨isSound_empty, ?_⟩, ?_, ?_, rfl, ?_⟩ <;> simp [empty, RolesFit]

section
variable {s : Service} {rows : Store}

theorem Store.IsPlain.not_founded (h : s.store.IsPlain) {r : Provision.Request}
    {response : Provision.Response} : ¬ Provision.Founded s r response rows := by
  rintro ⟨owner, _, _, _, _, howner, -⟩
  have hrole := h.customers owner (List.mem_of_find?_eq_some howner.found)
  rw [howner.admin] at hrole
  cases hrole

theorem Store.IsPlain.map_users (h : s.store.IsPlain) {f : User → User} (hf : User.Keeps f) {t : Store}
    (ht : t = { s.store with users := s.store.users.map f }) : t.IsPlain := by
  have hwhole := h.toIsWhole.map_users hf ht
  subst ht
  refine ⟨hwhole, fun v hv => ?_, fun v hv => ?_, h.unshared, h.providerIds⟩
  · obtain ⟨u, hu, rfl⟩ := List.mem_map.mp hv
    exact (hf.role u).trans (h.customers u hu)
  · obtain ⟨u, hu, rfl⟩ := List.mem_map.mp hv
    rcases hf.status u with hsame | hdeleted
    · rw [hsame]
      exact h.statuses u hu
    · exact .inr hdeleted

theorem Operation.Writes.isPlain {op : Operation} (hw : op.Writes s rows) (h : s.store.IsPlain) :
    rows.IsPlain := by
  have hwhole : rows.IsWhole := Operation.Writes.isWhole h.toIsWhole hw
  cases op with
  | signUp r notify =>
    obtain ⟨_, -, account, ⟨plain, -, haccount, hrows⟩, -⟩ := hw
    have hids := Store.addAccount?_fresh hrows
    have heq := Store.addAccount?_eq_some hrows
    rw [haccount] at heq
    subst heq
    refine ⟨hwhole, fun v hv => ?_, fun v hv => ?_, h.unshared, ?_⟩
    · rcases List.mem_append.mp hv with hv | hv
      · exact h.customers v hv
      · cases List.mem_singleton.mp hv
        rfl
    · rcases List.mem_append.mp hv with hv | hv
      · exact h.statuses v hv
      · cases List.mem_singleton.mp hv
        exact .inl rfl
    · exact Store.nodup_map_append h.providerIds hids
  | logIn settings r notify =>
    rcases hw with rfl | ⟨user, rfl⟩
    · exact h
    · exact h.map_users (User.keeps_loggedIn s.now user) rfl
  | changePassword r =>
    obtain ⟨_, provider, plain, -, -, -, -, -, rfl⟩ := hw
    refine ⟨hwhole, h.customers, h.statuses, h.unshared, ?_⟩
    have hids : (fun p : Provider => p.id) ∘ Provider.rehashed s.now provider.id (Secret.nextHash s plain) =
        fun p => p.id := by
      funext p
      simp
    rw [Store.providers_setPasswordHash, List.map_map, hids]
    exact h.providerIds
  | remove user =>
    rw [hw.2]
    exact h.map_users (User.keeps_removed s.now user) rfl
  | provision r notify =>
    obtain ⟨_, hw⟩ := hw
    exact absurd hw h.not_founded
  | _ =>
    rw [show rows = s.store from hw]
    exact h

end

/-! ## The ledger and the tables -/

namespace Ledger

variable {s : Service} {rows : Store} {ledger : Ledger} {moves : List Move}

theorem Describes.enter (h : ledger.Describes s.store) (hplain : s.store.IsPlain) {op : Operation}
    (hw : op.Writes s rows) : (ledger.enter s op).Describes rows := by
  cases op with
  | signUp r notify =>
    obtain ⟨_, hstrong, account, ⟨plain, hpassword, haccount, hrows⟩, -⟩ := hw
    obtain ⟨_, huser, -⟩ := Store.addAccount?_eq_some_iff.mp hrows
    have hfresh := Store.addUser?_fresh huser
    rw [Store.addAccount?_eq_some hrows]
    rw [haccount] at hfresh ⊢
    rw [hpassword] at hstrong
    simp only [Ledger.enter, hpassword]
    exact h.opened hfresh (by simp [Signup.newUser]) rfl rfl rfl rfl ⟨hstrong, _, rfl⟩
  | logIn settings r notify =>
    rcases hw with rfl | ⟨user, rfl⟩
    · exact h
    · exact h.of_houses (fun _ _ => Store.houses_setLastLogin s.now user) rfl
  | changePassword r =>
    obtain ⟨_, provider, plain, -, hprovider, -, hpassword, hstrong, rfl⟩ := hw
    rw [hpassword] at hstrong
    simp only [Ledger.enter, hpassword]
    exact h.renewed hplain.toAccountsFit hplain.providerIds s.now hprovider ⟨hstrong, _, rfl⟩
  | remove user =>
    rw [hw.2]
    exact h.closed s.now user
  | provision r notify =>
    obtain ⟨_, hw⟩ := hw
    exact absurd hw hplain.not_founded
  | _ =>
    rw [show rows = s.store from hw]
    exact h

/-- An operation that has not done its work has no entry, or has left the rows alone. -/
theorem enter_or_unchanged (hready : s.IsReady) {op : Operation} (hfails : ¬ op.Succeeds s)
    (ledger : Ledger) : ledger.enter s op = ledger ∨ (op.run.exec s).2.store = s.store := by
  have hanswer : (op.run.exec s).1 ≠ .ok (.ok ()) := fun h => hfails (.inl h)
  have hearly : ¬ (s.CommitsLate ∧ (op.run.exec s).2.store ≠ s.store) := fun h => hfails (.inr h)
  cases op with
  | signUp r notify =>
    right
    have hrun := Signup.run_admits hready.honest hready.settled r notify
    simp only [Operation.run, exec_silent] at hanswer hearly ⊢
    refine hrun.unchanged (fun response h => hanswer ?_) hearly
    rw [h]
    rfl
  | changePassword r =>
    right
    exact (PasswordChange.run_grants hready.honest hready.settled r).unchanged (fun _ => hanswer) hearly
  | remove user =>
    right
    exact (Removal.run_gives hready.honest hready.settled user).unchanged (fun _ => hanswer) hearly
  | _ => exact .inl rfl

theorem Describes.note (h : ledger.Describes s.store) (hready : s.IsReady) (hplain : s.store.IsPlain)
    {op : Operation} : (ledger.note s (.perform op)).Describes (op.run.exec s).2.store := by
  have hstep : Step s (fun rows => op.Writes s rows) (op.run.exec s).1 (op.run.exec s).2 :=
    op.run_steps hready
  by_cases hdone : op.Succeeds s
  · rw [Ledger.note, if_pos hdone]
    apply h.enter hplain
    rcases hdone with hok | ⟨-, hother⟩
    · exact hstep.done () hok
    · exact hstep.store.resolve_left hother
  · -- such an operation may still have written, but nothing that has an entry
    rw [Ledger.note, if_neg hdone]
    rcases hstep.store with hsame | hw
    · rw [hsame]
      exact h
    · rcases enter_or_unchanged hready hdone ledger with hentry | hsame
      · rw [← hentry]
        exact h.enter hplain hw
      · rw [hsame]
        exact h

theorem Describes.after (hmoves : ∀ move ∈ moves, move.IsHonest) (hready : s.IsReady)
    (hplain : s.store.IsPlain) (h : ledger.Describes s.store) :
    (s.after moves).IsReady ∧ (s.after moves).store.IsPlain ∧
      (ledger.after s moves).Describes (s.after moves).store := by
  -- the invariant of the history: nobody may found a workspace, and the ledger describes the rows
  refine IsReady.noted (P := fun (ledger : Ledger) s => s.store.IsPlain ∧ ledger.Describes s.store)
    (fun ledger s move hready hmove h => ?_) hmoves hready ⟨hplain, h⟩
  cases move with
  | wait time => exact h
  | arm call fault => exact h
  | perform op =>
    refine ⟨?_, h.2.note hready h.1⟩
    have hstep := op.run_steps hready
    rcases hstep.store with hsame | hw
    · rw [Service.move, hsame]
      exact h.1
    · exact Operation.Writes.isPlain hw h.1

end Ledger

/-! ## Logins -/

namespace Login

variable {s : Service} {ledger : Ledger} (hledger : ledger.Describes s.store) (hplain : s.store.IsPlain)
  (hready : s.IsReady) (hlook : CanLook s)
include hledger hplain

theorem known_of_entry {email : String} {c : Credential} (hc : ledger email = some c) :
    ∃ user provider, Known s email user provider ∧ provider.passwordHash = some c.hash := by
  obtain ⟨user, hmem, provider, hlive, hbyEmail, hprovider, hhash⟩ := hledger.known hplain.toAccountsFit hc
  have hactive : user.status = .active := (hplain.statuses user hmem).resolve_right hlive
  exact ⟨user, provider, ⟨hbyEmail, hactive, hprovider⟩, hhash⟩

include hready hlook

theorem exec_run_opened {settings : Settings} (hkey : settings.sealKey.raw.length = Envelope.keySize)
    (hissue : ∃ user token, settings.codec.issue s.now user none = .ok token) {r : Request}
    (hopens : ledger.Opens r.email r.password) (notify : Bool) :
    ∃ response t, (run settings r notify).exec s = (.ok (.ok response), t) := by
  obtain ⟨c, plain, hc, hpassword, hverify⟩ := hopens
  obtain ⟨user, provider, hknown, hhash⟩ := known_of_entry hledger hplain hc
  obtain ⟨_, _, hissue⟩ := hissue
  obtain ⟨token, htoken⟩ := Token.issue_other hissue user.id.text
  have hright := (Secret.opens_iff hhash).mpr ⟨plain, hpassword, hverify⟩
  exact exec_run_right hready hlook hknown hright (Store.readable_unshared hplain.unshared _ _)
    hkey htoken notify

theorem exec_run_closed {r : Request} (hcloses : ¬ ledger.Opens r.email r.password) (settings : Settings)
    (notify : Bool) : (run settings r notify).exec s = (.ok (.error .invalidCredentials), s) := by
  cases hc : ledger r.email with
  | none => exact exec_run_unknown hready.settled hlook.byEmail (hledger.unknown hc) settings notify
  | some c =>
    obtain ⟨user, provider, hknown, hhash⟩ := known_of_entry hledger hplain hc
    have hwrong : Secret.opens r.password (some provider) = false := by
      rw [← Bool.not_eq_true, Secret.opens_iff hhash]
      rintro ⟨plain, hpassword, hverify⟩
      exact hcloses ⟨c, plain, hc, hpassword, hverify⟩
    have hdecided : decided s.store r = .error .invalidCredentials := by
      rw [decided_known hknown, hwrong]
      rfl
    exact exec_run_decided hready.settled hlook.byEmail hlook.provider hdecided settings notify

omit hledger hplain hready hlook

/-- **The ledger decides.** After every history from the empty store, a login that can look things up gets a
session if the ledger opens to its password, and is refused otherwise. The passwords in the ledger are
strong, and it opens to whatever begins with the same 72 bytes. -/
theorem decided_by_ledger (hready : s.IsReady) (hempty : s.store = .empty) {moves : List Move}
    (hmoves : ∀ move ∈ moves, move.IsHonest) (hlook : CanLook (s.after moves)) {settings : Settings}
    (hkey : settings.sealKey.raw.length = 32)
    (hissue : ∃ user token, settings.codec.issue (s.after moves).now user none = .ok token) :
    let ledger := Ledger.empty.after s moves
    (∀ r notify, ((∃ response, ((run settings r notify).exec (s.after moves)).1 = .ok (.ok response)) ↔
        ledger.Opens r.email r.password) ∧
      (¬ ledger.Opens r.email r.password →
        ((run settings r notify).exec (s.after moves)).1 = .ok (.error .invalidCredentials))) ∧
    ∀ email c, ledger email = some c → Password.weakness (.whole c.password) = none ∧
      ∀ q, (Utf8.encode q).take 72 = (Utf8.encode c.password).take 72 → ledger.Opens email (.whole q) := by
  intro ledger
  have hfirst : s.store.IsPlain ∧ Ledger.empty.Describes s.store := by
    rw [hempty]
    exact ⟨Store.isPlain_empty, Ledger.Describes.empty⟩
  obtain ⟨hready, hplain, hledger⟩ := Ledger.Describes.after hmoves hready hfirst.1 hfirst.2
  refine ⟨fun r notify => ?_, fun email c hc => ⟨(hledger.good email c hc).strong, fun q hq => ?_⟩⟩
  · have hrefused : ¬ ledger.Opens r.email r.password →
        ((run settings r notify).exec (s.after moves)).1 = .ok (.error .invalidCredentials) := by
      intro hcloses
      rw [exec_run_closed hledger hplain hready hlook hcloses settings notify]
    refine ⟨⟨?_, fun hopens => ?_⟩, hrefused⟩
    · rintro ⟨response, hresponse⟩
      by_contra hcloses
      rw [hrefused hcloses] at hresponse
      cases hresponse
    · obtain ⟨response, t, hexec⟩ :=
        exec_run_opened hledger hplain hready hlook hkey hissue hopens notify
      exact ⟨response, by rw [hexec]⟩
  · have hsame : Password.keyBytes q = Password.keyBytes c.password := by
      rw [Password.keyBytes, Password.keyBytes, hq]
    exact ⟨c, q, hc, rfl, (hledger.good email c hc).verify hsame⟩

/-! ## A visitor who signs up -/

def ann : Signup.Request := ⟨"ann@example.com", .whole "Passw0rd!", "Ann", "Lee"⟩

def minute : Settings :=
  ⟨⟨"scenario-secret", 60 * Duration.second, "iam_service", .hs256⟩,
    .text "0123456789abcdef0123456789abcdef", none, .standard, .standard⟩

theorem ann_decided_by_ledger :
    let s := (Service.start 0).after [.perform (.signUp ann true), .wait 1000000]
    (∃ response, ((run minute ⟨ann.email, ann.password⟩ true).exec s).1 = .ok (.ok response)) ∧
      ((run minute ⟨"bob@example.com", ann.password⟩ true).exec s).1 = .ok (.error .invalidCredentials) := by
  have hmoves : ∀ move ∈ [Move.perform (.signUp ann true), .wait 1000000], move.IsHonest := by
    simp [Move.IsHonest]
  have hissue : ∃ user token, minute.codec.issue 1000000 user none = .ok token :=
    ⟨"ann", _, Token.issue_sealed "ann" (by decide) (by decide +kernel)⟩
  have hdone : (Operation.signUp ann true).Succeeds (Service.start 0) := .inl rfl
  have hledger : Ledger.empty.after (Service.start 0) [.perform (.signUp ann true), .wait 1000000] =
      Ledger.empty.opened ann.email
        ⟨.counted 1, "Passw0rd!", Secret.nextHash (Service.start 0) "Passw0rd!"⟩ := by
    simp only [Ledger.after, Service.noted, Ledger.note, if_pos hdone]
    rfl
  have hkey : minute.sealKey.raw.length = 32 := by decide
  have h := decided_by_ledger (ready_start 0) rfl hmoves ⟨rfl, rfl, rfl⟩ hkey hissue
  simp only [hledger] at h
  refine ⟨?_, ?_⟩
  · apply (h.1 ⟨ann.email, ann.password⟩ true).1.mpr
    exact (h.2 ann.email _ (if_pos rfl)).2 "Passw0rd!" rfl
  · apply (h.1 ⟨"bob@example.com", ann.password⟩ true).2
    rintro ⟨c, plain, hc, -⟩
    cases hc

/-- The commit of a signup breaks after its work: the signup fails, and its password opens all the same. -/
theorem late_signup_can_log_in :
    let s := (Service.start 0).arm .commit (.breaksAfter .runtime)
    ((Signup.run ann true).exec s).1 = .error (.broken .runtime) ∧
      ∃ response t, (run minute ⟨ann.email, ann.password⟩ true).exec ((Signup.run ann true).exec s).2 =
        (.ok (.ok response), t) := by
  intro s
  refine ⟨rfl, ?_⟩
  have hready : s.IsReady := (ready_start 0).arm trivial
  have hafter := (Signup.run_steps hready.settled hready.honest ann true).ready hready
  obtain ⟨user, provider, hknown, hhash⟩ : ∃ user provider,
      Known ((Signup.run ann true).exec s).2 ann.email user provider ∧
        provider.passwordHash = some (Secret.nextHash s "Passw0rd!") :=
    ⟨_, _, ⟨rfl, rfl, rfl⟩, rfl⟩
  have hverify : Password.verify "Passw0rd!" (Secret.nextHash s "Passw0rd!") = true :=
    Password.verify_hash (Password.length_countedSalt 1) rfl
  have hright := (Secret.opens_iff hhash).mpr ⟨"Passw0rd!", rfl, hverify⟩
  have hissue : minute.codec.issue 0 user.id.text none = .ok _ :=
    Token.issue_sealed _ (by decide) (by decide +kernel)
  exact exec_run_right hafter ⟨rfl, rfl, rfl⟩ hknown hright (Store.readable_unshared rfl _ _) rfl hissue
    true

end Login

end Gatehouse
