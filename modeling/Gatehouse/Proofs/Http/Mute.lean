import Gatehouse.Proofs.Http.Logout
import Gatehouse.Proofs.Service.Mute

/-!
# Requests publish nothing

Whatever is asked over HTTP, the answer comes without a publication: a route runs operations and writes down
what became of them.
-/

namespace Gatehouse.Http

open Run Service

variable {α : Type} {settings : Settings} {r : Request}

theorem refused_mute (refusal : Refusal) : Keeps Mute (refused refusal) := by
  unfold refused
  split <;> exact (mute_log _ _).bind fun _ => keeps_pure _

theorem respond_mute {m : Run (Answer α)} {f : α → Run Response} (h : Keeps Mute m)
    (hf : ∀ a, Keeps Mute (f a)) : Keeps Mute (m >>= fun answer => respond answer f) := by
  refine h.bind fun answer => ?_
  cases answer with
  | ok a => exact hf a
  | error refusal => exact refused_mute refusal

theorem withCaller_mute {next : Caller → Run Response} (h : ∀ caller, Keeps Mute (next caller)) :
    Keeps Mute (withCaller settings r next) := by
  unfold withCaller
  split
  · exact refused_mute _
  · refine (Gate.recognize_mute _ _).bind fun answer => ?_
    cases answer with
    | ok caller => exact h caller
    | error refusal => exact refused_mute _

theorem logout_mute : Keeps Mute (logout settings r) := by
  have hcaller : Keeps Mute (caller? settings r) := by
    unfold caller?
    split
    · exact keeps_pure _
    · exact (Gate.recognize_mute _ _).bind fun _ => keeps_pure _
  refine hcaller.bind fun found => ?_
  cases found with
  | none => exact keeps_withCookies _ _
  | some caller => exact (TokenData.logout_mute _ _).bind fun _ => keeps_withCookies _ _

theorem createWorkspace_mute (body : Content) (caller : Caller) : Keeps Mute (createWorkspace body caller) :=
  fun _ => withFields_stays fun _ _ => respond_mute (Provision.run_mute _ _) (fun _ => keeps_pure _) _

theorem perform_mute (route : Route) : Keeps Mute (perform settings r route) := by
  cases route with
  | health => exact keeps_pure _
  | signup =>
    exact fun _ => withBody_stays fun _ => withFields_stays fun _ _ =>
      respond_mute (Signup.run_mute _ _) (fun _ => keeps_pure _) _
  | login =>
    exact fun _ => withBody_stays fun _ => withFields_stays fun _ _ =>
      respond_mute (Login.run_mute _ _ _) (fun _ => keeps_withCookies _ _) _
  | logout => exact logout_mute
  | showUser => exact withCaller_mute fun _ => respond_mute (Reading.user_mute _) fun _ => keeps_pure _
  | showProfile => exact withCaller_mute fun _ => respond_mute (Reading.profile_mute _) fun _ => keeps_pure _
  | removeUser => exact withCaller_mute fun _ => respond_mute (Removal.run_mute _) fun _ => keeps_pure _
  | changePassword =>
    exact fun _ => withBody_stays fun _ => withCaller_mute (fun _ _ => withFields_stays fun _ _ =>
      respond_mute (PasswordChange.run_mute _) (fun _ => keeps_pure _) _) _
  | revokeSessions => exact withCaller_mute fun _ => respond_mute (Revocation.run_mute _) fun _ => keeps_pure _
  | createWorkspace =>
    refine fun _ => withBody_stays fun body => withCaller_mute (fun caller => ?_) _
    split
    · exact createWorkspace_mute body caller
    · exact refused_mute _

theorem handle_mute (settings : Settings) (r : Request) : Keeps Mute (handle settings r) := by
  unfold handle
  split
  · exact perform_mute _
  · exact keeps_pure _
  · exact keeps_pure _
  · exact keeps_pure _

theorem serve_mute (settings : Settings) (r : Request) (s : Service) : Mute s (serve settings r s).2 := by
  rw [serve_state]
  exact handle_mute settings r s

end Gatehouse.Http
