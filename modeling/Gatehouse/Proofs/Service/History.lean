import Gatehouse.Account.PasswordChange
import Gatehouse.Account.Reading
import Gatehouse.Account.Removal
import Gatehouse.Account.Signup
import Gatehouse.Proofs.Service.Writes
import Gatehouse.Session.Gate
import Gatehouse.Session.Revocation
import Gatehouse.Tenancy.Provision

/-!
# Histories

What can happen to the service: time passes, a call is going to fail, an operation is run. A history is
a list of such moves, of any length and in any order, and leads from one state to another.
-/

namespace Gatehouse

/-! ## Operations -/

inductive Operation where
  | signUp (r : Signup.Request) (notify : Bool)
  | logIn (settings : Settings) (r : Login.Request) (notify : Bool)
  | logOut (user sealed : String)
  | recognize (codec : Token.Codec) (token : String)
  | loadUser (user : Uuid)
  | loadProfile (user : Uuid)
  | changePassword (r : PasswordChange.Request)
  | remove (user : Uuid)
  | revoke (user : Uuid)
  | provision (r : Provision.Request) (notify : Bool)

def Run.silent {α : Type} (m : Run (Answer α)) : Run (Answer Unit) := do
  return (← m).map fun _ => ()

theorem Run.exec_silent {α : Type} {s : Service} (m : Run (Answer α)) :
    (silent m).exec s = ((m.exec s).1.map fun answer => answer.map fun _ => (), (m.exec s).2) := by
  rw [silent, exec_bind]
  rcases m.exec s with ⟨_ | _, t⟩ <;> rfl

open Run in
def Operation.run : Operation → Run (Answer Unit)
  | signUp r notify => silent (Signup.run r notify)
  | logIn settings r notify => silent (Login.run settings r notify)
  | logOut user sealed => do
    TokenData.logout user sealed
    return .ok ()
  | recognize codec token => silent (Gate.recognize codec token)
  | loadUser user => silent (Reading.user user)
  | loadProfile user => silent (Reading.profile user)
  | changePassword r => PasswordChange.run r
  | remove user => Removal.run user
  | revoke user => silent (Revocation.run user)
  | provision r notify => silent (Provision.run r notify)

/-! ## Moves -/

inductive Move where
  /-- Some microseconds go by. -/
  | wait (time : Nat)
  | arm (call : Call) (fault : Fault)
  | perform (op : Operation)

/-- No write is made to answer without its work. -/
def Move.IsHonest : Move → Prop
  | arm call (.answers _) => call.isWrite = false
  | _ => True

namespace Service

def wait (s : Service) (time : Nat) : Service := { s with now := s.now + time }

def move (s : Service) : Move → Service
  | .wait time => s.wait time
  | .arm call fault => s.arm call fault
  | .perform op => (op.run.exec s).2

def after (s : Service) (moves : List Move) : Service := moves.foldl move s

@[simp] theorem after_nil (s : Service) : s.after [] = s := rfl

@[simp] theorem after_cons (s : Service) (move : Move) (moves : List Move) :
    s.after (move :: moves) = (s.move move).after moves := rfl

def noted {G : Type} (note : G → Service → Move → G) (g : G) (s : Service) : List Move → G
  | [] => g
  | move :: moves => noted note (note g s move) (s.move move) moves

/-! ## Faults along the way -/

/-- What holds between two operations as long as all faults are honest. -/
structure IsReady (s : Service) : Prop where
  settled : s.IsSettled
  honest : s.IsHonest

theorem ready_start (now : Instant) : (start now).IsReady :=
  ⟨settled_start now, fun _ _ _ => List.not_mem_nil⟩

theorem IsReady.wait {s : Service} (h : s.IsReady) (time : Nat) : (s.wait time).IsReady :=
  ⟨h.settled, h.honest⟩

theorem IsReady.arm {s : Service} (h : s.IsReady) {call : Call} {fault : Fault}
    (hf : (Move.arm call fault).IsHonest) : (s.arm call fault).IsReady := by
  refine ⟨h.settled, fun other value hw hm => ?_⟩
  rw [Service.arm, List.mem_append] at hm
  rcases hm with hm | hm
  · exact h.honest other value hw (List.mem_filter.mp hm).1
  · cases List.mem_singleton.mp hm
    rw [Move.IsHonest, hw] at hf
    cases hf

end Service

end Gatehouse
