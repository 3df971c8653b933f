import Gatehouse.Account.Reading
import Gatehouse.Proofs.Account.Race
import Gatehouse.Proofs.Service.History

/-!
# What a signup reports

A signup shows the user it has made, and a read shows the row that was stored. The two agree but for the time
of creation: a stored stamp has lost its zone, so the read writes it without the letter at its end.
-/

namespace Gatehouse

open Run Service

/-! ## Stored stamps -/

theorem Stamp.text_utc {stamp : Stamp} (h : stamp.offset = some 0) : stamp.text = stamp.naive.text ++ "Z" := by
  have hzone : chars ['Z'] stamp = chars ['Z'] stamp.naive ++ ['Z'] := by
    have hnaive : zoneText ['Z'] stamp.naive.offset = [] := rfl
    have hutc : zoneText ['Z'] stamp.offset = ['Z'] := by
      rw [h]
      rfl
    rw [chars, chars, hnaive, hutc, List.append_nil]
    rfl
  rw [text, hzone, String.ofList_append]
  rfl

/-! ## The new account, loaded -/

theorem find?_added {α : Type} {rows : List α} {row : α} {p : α → Bool} (hrows : ∀ x ∈ rows, p x = false)
    (hrow : p row = true) : (rows ++ [row]).find? p = some row := by
  have hnone : rows.find? p = none := List.find?_eq_none.mpr fun x hx => by simp [hrows x hx]
  rw [List.find?_append, hnone, Option.none_or, List.find?_cons_of_pos hrow]

namespace Store

variable {s : Store} {u : User} {p : Profile} {a : Provider}

theorem userById?_withAccount (husers : ∀ v ∈ s.users, v.id ≠ u.id) (hlive : u.status ≠ .deleted) :
    (s.withAccount u p a).userById? u.id = some (storedUser u) := by
  refine find?_added (fun v hv => ?_) ?_
  · simp [husers v hv]
  · simp [isDeleted, storedUser, hlive]

theorem profileOf?_withAccount (hprofiles : ∀ q ∈ s.profiles, q.userId ≠ u.id) (hprofile : p.userId = u.id) :
    (s.withAccount u p a).profileOf? u.id = some (storedProfile p) := by
  refine find?_added (fun q hq => ?_) ?_
  · simp [hprofiles q hq]
  · simp [storedProfile, hprofile]

theorem membershipsOf_eq_nil {user : Uuid} (h : ∀ m ∈ s.memberships, m.userId ≠ user) :
    s.membershipsOf user = [] := by
  have hothers : s.memberships.filter (·.userId == user) = [] := by
    rw [List.filter_eq_nil_iff]
    intro m hm
    simp [h m hm]
  rw [membershipsOf, hothers, List.map_nil]

theorem load_withAccount (husers : ∀ v ∈ s.users, v.id ≠ u.id) (hprofiles : ∀ q ∈ s.profiles, q.userId ≠ u.id)
    (hmemberships : ∀ m ∈ s.memberships, m.userId ≠ u.id) (hprofile : p.userId = u.id)
    (hlive : u.status ≠ .deleted) :
    ((s.withAccount u p a).userById? u.id).map (s.withAccount u p a).load =
      some ⟨storedUser u, some (storedProfile p), []⟩ := by
  have hid : (storedUser u).id = u.id := rfl
  have hnone : (s.withAccount u p a).membershipsOf u.id = [] := membershipsOf_eq_nil hmemberships
  rw [userById?_withAccount husers hlive, Option.map_some, load, hid, profileOf?_withAccount hprofiles hprofile,
    hnone]

end Store

theorem Reading.exec_user {s : Service} (hsettled : s.IsSettled) (hworks : s.fault? .userWithWorkspaces = none)
    {id : Uuid} {loaded : LoadedUser} (hload : (s.store.userById? id).map s.store.load = some loaded)
    {info : UserInfo} (hinfo : UserInfo.of s.now loaded.user loaded.profile loaded.memberships = .ok info) :
    (user id).exec s = (.ok (.ok info), s) := by
  have hlooked := Directory.exec_userWithWorkspaces hsettled hworks id
  rw [hload] at hlooked
  rw [user, exec_inTransaction, exec_bind_ok hlooked]
  simp only
  rw [exec_bind_ok exec_get, hinfo]
  show (_, s.rolledBack) = _
  rw [hsettled.rolledBack]
  rfl

theorem UserInfo.field?_other (info : UserInfo) (created : Option Stamp) {name : String}
    (h : name ≠ "created_at") :
    ({ info with createdAt := created } : UserInfo).toJson.field? name = info.toJson.field? name := by
  have hname : ("created_at" == name) = false := beq_eq_false_iff_ne.mpr (Ne.symm h)
  simp only [UserInfo.toJson, Json.field?, Json.fields?, Option.bind_some, Json.find?, List.find?_cons, hname]

/-! ## Signup and read -/

namespace Signup

variable {s t u : Service} {r : Request}

def shownLater (s : Service) (response : Response) : UserInfo :=
  { response.user with createdAt := some (Stamp.ofInstant s.now).naive }

theorem exec_user_enrolled {account : User × Profile} {rows : Store} (h : Enrolled s r account rows)
    (hmemberships : ∀ m ∈ s.store.memberships, m.userId ≠ nextUser s) (hsettled : u.IsSettled)
    (hstore : u.store = rows) (hworks : u.fault? .userWithWorkspaces = none) :
    (Reading.user (nextUser s)).exec u = (.ok (.ok (shownLater s ⟨infoOf account⟩)), u) := by
  obtain ⟨plain, -, rfl, hrows⟩ := h
  obtain ⟨husers, hprofiles⟩ := Store.addAccount?_alone hrows
  have hactive : (newUser s.now (nextUser s) r).status ≠ .deleted := fun h => by cases h
  have hload := Store.load_withAccount (p := newProfile s.now (nextUser s) r)
    (a := newProvider s.now (.counted (s.ids + 2)) (nextUser s) (Secret.nextHash s plain) r) husers hprofiles
    hmemberships rfl hactive
  rw [← Store.addAccount?_eq_some hrows, ← hstore] at hload
  exact Reading.exec_user hsettled hworks hload rfl

/-- **A read shows what the signup has shown, but for the zone.** Every field is the same, except for the time of
creation: the signup writes it in UTC, with a Z at its end, and every later read writes it without. -/
theorem read_shows_signup (hready : s.IsReady) (hmemberships : ∀ m ∈ s.store.memberships, m.userId ≠ nextUser s)
    {notify : Bool} {response : Response} (h : (run r notify).exec s = (.ok (.ok response), t))
    (hsettled : u.IsSettled) (hstore : u.store = t.store) (hworks : u.fault? .userWithWorkspaces = none) :
    ∃ shown written, response.user.id = (nextUser s).text ∧
      (Reading.user (nextUser s)).exec u = (.ok (.ok shown), u) ∧
      (∀ name, name ≠ "created_at" → shown.toJson.field? name = response.user.toJson.field? name) ∧
      shown.toJson.field? "created_at" = some (.text written) ∧
      response.user.toJson.field? "created_at" = some (.text (written ++ "Z")) := by
  obtain ⟨⟨-, account, henrolled, rfl⟩, -⟩ := (run_admits hready.honest hready.settled r notify).ended h
  have hread := exec_user_enrolled henrolled hmemberships hsettled hstore hworks
  have hzone : (Stamp.ofInstant s.now).text = (Stamp.ofInstant s.now).naive.text ++ "Z" := Stamp.text_utc rfl
  obtain ⟨plain, -, rfl, -⟩ := henrolled
  refine ⟨_, (Stamp.ofInstant s.now).naive.text, rfl, hread, fun name hname => UserInfo.field?_other _ _ hname,
    rfl, ?_⟩
  rw [← hzone]
  rfl

/-! ## One signup, read again -/

def november : Service := Service.start 1700000000000000

theorem exec_bob_november : (run bob true).exec november =
    (.ok (.ok ⟨infoOf (nextAccount november bob)⟩), joined november "Passw0rd!" bob true) := by
  have hfresh : IsFresh november bob := by
    constructor <;> decide +kernel
  exact exec_run_joined (settled_start _) rfl rfl rfl hfresh rfl (by decide +kernel) true

theorem settled_joined : (joined november "Passw0rd!" bob true).IsSettled := rfl

theorem bob_is_read_again :
    ∃ response t shown, (run bob true).exec november = (.ok (.ok response), t) ∧
      (Reading.user (nextUser november)).exec t = (.ok (.ok shown), t) ∧
      shown.toJson.field? "email" = response.user.toJson.field? "email" ∧
      shown.toJson.field? "created_at" ≠ response.user.toJson.field? "created_at" := by
  have hready : november.IsReady := ready_start _
  obtain ⟨shown, written, -, hread, hsame, hlater, hfirst⟩ := read_shows_signup hready
    (fun m hm => absurd hm List.not_mem_nil) exec_bob_november settled_joined rfl rfl
  refine ⟨_, _, shown, exec_bob_november, hread, hsame "email" (by decide), ?_⟩
  rw [hlater, hfirst]
  intro heq
  have hlength := congrArg String.length (Json.text.inj (Option.some.inj heq))
  simp at hlength

/-- The signup says that bob was created at 22:13:20Z, and the read that he was created at 22:13:20. -/
theorem bob_created_without_zone :
    ∃ response t shown, (run bob true).exec november = (.ok (.ok response), t) ∧
      (Reading.user (nextUser november)).exec t = (.ok (.ok shown), t) ∧
      response.user.toJson.field? "created_at" = some (.text "2023-11-14T22:13:20Z") ∧
      shown.toJson.field? "created_at" = some (.text "2023-11-14T22:13:20") := by
  have hload : ((joined november "Passw0rd!" bob true).store.userById? (nextUser november)).map
      (joined november "Passw0rd!" bob true).store.load =
      some ⟨Store.storedUser (nextAccount november bob).1,
        some (Store.storedProfile (nextAccount november bob).2), []⟩ := rfl
  refine ⟨_, _, _, exec_bob_november, Reading.exec_user settled_joined rfl hload rfl, ?_, ?_⟩
  · have htext : (Stamp.ofInstant november.now).text = "2023-11-14T22:13:20Z" := by decide +kernel
    exact congrArg (fun text => some (Json.text text)) htext
  · have htext : (Stamp.ofInstant november.now).naive.text = "2023-11-14T22:13:20" := by decide +kernel
    exact congrArg (fun text => some (Json.text text)) htext

end Signup

end Gatehouse
