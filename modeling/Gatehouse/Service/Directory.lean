import Gatehouse.Service.Transaction

/-!
# Directory access

The calls of the service to its store. Look-ups of single users hide deleted ones; the check for a
taken email does not.
-/

namespace Gatehouse.Directory

open Run

/-! ## Checks -/

inductive Check where
  | email (email : String)
  | user (id : Uuid)
  | slug (slug : String)
  | workspace (id : Uuid)
  deriving DecidableEq, Repr

def Check.call : Check → Call
  | .email _ => .userExistsByEmail
  | .user _ => .userExistsById
  | .slug _ => .slugExists
  | .workspace _ => .workspaceExists

def Check.holds (s : Store) : Check → Bool
  | .email e => s.emailExists e
  | .user id => (s.userById? id).isSome
  | .slug t => s.slugExists t
  | .workspace id => s.hasWorkspace id

def answer (c : Check) : Run Json :=
  guarded c.call (fun value => return value) do return .bool (c.holds (← rows))

def holds (c : Check) : Run Bool := do return (← answer c).isTruthy

/-! ## Users -/

/-- A null stands for nothing found, and any other value has nothing of a row. -/
def strayRow {α : Type} : Json → Run (Option α)
  | .null => return none
  | _ => throw .missingAttribute

def userByEmail (email : String) : Run (Option User) :=
  guarded .userByEmail strayRow do return (← rows).userByEmail? email

def userById (user : Uuid) : Run (Option User) :=
  guarded .userById strayRow do return (← rows).userById? user

def userWithProfile (user : Uuid) : Run (Option (User × Option Profile)) :=
  guarded .userWithProfile strayRow do
    let s ← rows
    return (s.userById? user).map fun u => (u, s.profileOf? u.id)

def userWithWorkspaces (user : Uuid) : Run (Option LoadedUser) :=
  guarded .userWithWorkspaces strayRow do
    let s ← rows
    return (s.userById? user).map s.load

/-- The three rows of a new user go in together or not at all. An answer that comes without the work
means that they did not. -/
def createUser (u : User) (p : Profile) (a : Provider) : Run Bool :=
  guarded .createUser (fun _ => return false) do
    insert fun check s => do
      let s ← s.addUser? u
      let s ← s.addProfile? check p
      s.addProvider? check a
    return true

def updateLastLogin (user : Uuid) : Run Unit :=
  guarded .updateLastLogin (fun _ => return ()) do
    stage ((← rows).setLastLogin (← get).now user)

/-- Whether there was a user to mark as deleted. -/
def softDelete (user : Uuid) : Run Bool :=
  guarded .softDelete (fun value => return value.isTruthy) do
    let (s, found) := (← rows).softDelete (← get).now user
    stage s
    return found

/-! ## Sign-in providers -/

def providerOf (user : Uuid) (kind : ProviderKind) : Run (Option Provider) :=
  guarded .providerOf strayRow do return (← rows).providerOf? user kind

/-- Gives a provider its new hash, whatever the answer is. -/
def updateProvider (provider : Uuid) (hash : String) : Run Unit := do
  stage ((← rows).setPasswordHash (← get).now provider hash)
  guarded .updateProvider (fun _ => return ()) (return ())

/-! ## Workspaces -/

/-- A new workspace is read again at once, so an answer that is none ends the work. A row with a text
that no column holds fails the transaction. -/
def createWorkspace (w : Workspace) (isStorable : Bool) : Run Unit :=
  guarded .createWorkspace (fun _ => throw .missingAttribute)
    (insert fun check s => if isStorable then s.addWorkspace? check w else none)

def createRole (r : Role) : Run Unit :=
  guarded .createRole (fun _ => throw .missingAttribute)
    (insert fun check s => s.addRole? check r)

/-- Whether the row went in. -/
def createMembership (m : Membership) : Run Bool :=
  guarded .createMembership (fun _ => return false) do
    insert fun check s => s.addMembership? check m
    return true

end Gatehouse.Directory
