import Gatehouse.Calendar.Instant
import Gatehouse.Directory.Store
import Gatehouse.Failure
import Gatehouse.Service.Cache

/-!
# The state of the service

Everything an operation can see or change: the clock, what was drawn so far, the committed store and
the transaction under way, the cache, the faults that are armed, and what was sent out. A run keeps
the state it has reached when it fails.
-/

namespace Gatehouse

/-! ## Calls that can break -/

inductive Call where
  | userExistsByEmail
  | userExistsById
  | userByEmail
  | userById
  | userWithProfile
  | userWithWorkspaces
  | createUser
  | updateLastLogin
  | softDelete
  | providerOf
  | updateProvider
  | slugExists
  | workspaceExists
  | createWorkspace
  | createRole
  | createMembership
  | commit
  | cacheSet
  | cacheGet
  | cacheDelete
  | cacheScan
  | cachePipeline
  | cachePing
  | cachePublish
  deriving DecidableEq, Repr

instance : Vocabulary Call where
  title := "Call"
  all := [.userExistsByEmail, .userExistsById, .userByEmail, .userById, .userWithProfile,
    .userWithWorkspaces, .createUser, .updateLastLogin, .softDelete, .providerOf, .updateProvider,
    .slugExists, .workspaceExists, .createWorkspace, .createRole, .createMembership, .commit,
    .cacheSet, .cacheGet, .cacheDelete, .cacheScan, .cachePipeline, .cachePing, .cachePublish]
  word
    | .userExistsByEmail => "users.exists_by_email"
    | .userExistsById => "users.exists_by_id"
    | .userByEmail => "users.get_by_email"
    | .userById => "users.get_by_id"
    | .userWithProfile => "users.get_with_profile"
    | .userWithWorkspaces => "users.get_with_workspaces"
    | .createUser => "users.create_with_auth"
    | .updateLastLogin => "users.update_last_login"
    | .softDelete => "users.soft_delete"
    | .providerOf => "users.get_auth_provider"
    | .updateProvider => "users.update_auth_provider"
    | .slugExists => "workspaces.exists_by_slug"
    | .workspaceExists => "workspaces.exists_by_id"
    | .createWorkspace => "workspaces.create"
    | .createRole => "workspaces.create_role"
    | .createMembership => "workspaces.create_membership"
    | .commit => "uow.commit"
    | .cacheSet => "redis.set"
    | .cacheGet => "redis.get"
    | .cacheDelete => "redis.delete"
    | .cacheScan => "redis.scan"
    | .cachePipeline => "redis.pipeline"
    | .cachePing => "redis.ping"
    | .cachePublish => "redis.publish"

/-- What the next use of a call does instead of its work. -/
inductive Fault where
  | breaks (how : Breakdown)
  /-- The work is done first. -/
  | breaksAfter (how : Breakdown)
  /-- The value is taken for the answer, and no work is done. -/
  | answers (value : Json)
  /-- Never answers. -/
  | hangs
  deriving Repr

/-! ## Logs -/

inductive Level where
  | info | warning | error
  deriving DecidableEq, Repr

structure LogLine where
  level : Level
  message : String
  deriving DecidableEq, Repr

def LogLine.text (l : LogLine) : String :=
  (match l.level with
    | .info => "INFO"
    | .warning => "WARNING"
    | .error => "ERROR") ++ ": " ++ l.message

/-! ## State -/

structure Event where
  topic : String
  payload : Json

/-- The rows a transaction sees, and whether it has failed and waits for its rollback. -/
structure Transaction where
  rows : Store
  failed : Bool

structure Service where
  now : Instant
  references : Store.References
  ids : Nat
  hashes : Nat
  seals : Nat
  store : Store
  transaction : Transaction
  cache : Cache
  faults : List (Call × Fault)
  commands : List Command
  events : List Event
  logs : List LogLine

namespace Service

def start (now : Instant) : Service :=
  ⟨now, false, 0, 0, 0, .empty, ⟨.empty, false⟩, [], [], [], [], []⟩

/-- Arms a fault; a call has one at a time. -/
def arm (s : Service) (call : Call) (fault : Fault) : Service :=
  { s with faults := s.faults.filter (·.1 != call) ++ [(call, fault)] }

end Service

/-! ## Runs -/

abbrev Run := ExceptT Failure (StateM Service)

namespace Run

def log (level : Level) (message : String) : Run Unit :=
  modify fun s => { s with logs := s.logs ++ [⟨level, message⟩] }

def drawId : Run Uuid := do
  let s ← get
  set { s with ids := s.ids + 1 }
  return .counted (s.ids + 1)

def drawHash : Run Nat := do
  let s ← get
  set { s with hashes := s.hashes + 1 }
  return s.hashes + 1

def drawSeal : Run Nat := do
  let s ← get
  set { s with seals := s.seals + 1 }
  return s.seals + 1

def emit (topic : String) (payload : List (String × Json)) : Run Unit :=
  modify fun s => { s with events := s.events ++ [⟨topic, .object payload⟩] }

def takeFault (call : Call) : Run (Option Fault) := do
  let s ← get
  match s.faults.find? (·.1 == call) with
  | none => return none
  | some (_, fault) =>
    set { s with faults := s.faults.filter (·.1 != call) }
    return some fault

/-- Does the work of a call, unless a fault is armed for it. `reading` says what a caller makes of a
value that comes instead of the answer. -/
def guarded {α : Type} (call : Call) (reading : Json → Run α) (work : Run α) : Run α := do
  match ← takeFault call with
  | none => work
  | some (.breaks how) => throw (.broken how)
  | some (.breaksAfter how) => do
    let _ ← work
    throw (.broken how)
  | some (.answers value) => reading value
  | some .hangs => work

def ofChecked {α : Type} : Shape.Checked α → Run α
  | .ok a => pure a
  | .error details => throw (.shape details)

def ofExcept {α β : Type} (f : β → Failure) : Except β α → Run α
  | .ok a => pure a
  | .error e => throw (f e)

end Run

end Gatehouse
