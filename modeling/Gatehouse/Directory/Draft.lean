import Gatehouse.Calendar.Instant
import Gatehouse.Calendar.Iso8601
import Gatehouse.Directory.Kinds
import Gatehouse.Failure
import Gatehouse.Json.Writer

/-!
# Drafts

Entities given as JSON, before they are looked at as anything. Identifiers, kinds and dates are read in
the order in which they are given, and the first that cannot be read ends the reading; every other value
stays as it is, however unfit, until somebody needs it.
-/

namespace Gatehouse

open Shape (Fields)

inductive Cell where
  | ident (u : Option Uuid)
  | stamp (s : Option Stamp)
  /-- A word of the vocabulary that belongs to the name. -/
  | word (s : String)
  | value (v : Json)

/-- An entity with the instant at which it was made. -/
structure Draft where
  made : Instant
  id : Option Uuid
  cells : List (String × Cell)

/-- The entities, as far as their words differ. -/
inductive Entity where
  | user | profile | provider | workspace | role | membership
  deriving DecidableEq, Repr

namespace Draft

/-- Reading knows the clock and draws identifiers where none are given. -/
abbrev Reading := ReaderT Instant (ExceptT Failure (StateM Nat))

/-! ## Cells -/

def identNames : List String :=
  ["id", "user_id", "workspace_id", "role_id", "owner_id", "invited_by"]

def readIdent : Json → Except Failure (Option Uuid)
  | .null => .ok none
  | .text s =>
    match Uuid.read s with
    | .ok u => .ok (some u)
    | .error e => .error (.ofUuid e)
  | _ => .error .missingAttribute

def readStamp : Json → Except Failure (Option Stamp)
  | .null => .ok none
  | .text s =>
    match Iso8601.read s with
    | .ok stamp => .ok (some stamp)
    | .error e => .error (.value (e.message s))
  | _ => .error .wrongType

def readWord (α : Type) [Vocabulary α] (v : Json) : Except Failure String :=
  match (v.text?.bind Vocabulary.ofWord? : Option α) with
  | some a => .ok (Vocabulary.word a)
  | none => .error (.value (Vocabulary.complaint α v.display))

def readStatus (entity : Entity) (v : Json) : Except Failure String :=
  match entity with
  | .workspace | .role => readWord WorkspaceStatus v
  | .membership => readWord MembershipStatus v
  | _ => readWord UserStatus v

/-- The name decides how a value is read. -/
def readCell (entity : Entity) (name : String) (v : Json) : Except Failure Cell :=
  if identNames.contains name then (readIdent v).map .ident
  else if name == "status" then (readStatus entity v).map .word
  else if name == "global_role" then (readWord GlobalRole v).map .word
  else if name == "provider" then (readWord ProviderKind v).map .word
  else if "_at".toList.isSuffixOf name.toList then (readStamp v).map .stamp
  else .ok (.value v)

def readCells (entity : Entity) : Fields → Except Failure (List (String × Cell))
  | [] => .ok []
  | (name, v) :: rest => do
    let cell ← readCell entity name v
    let others ← readCells entity rest
    .ok ((name, cell) :: others)

/-! ## Looking into a draft -/

def cell? (d : Draft) (name : String) : Option Cell :=
  (d.cells.find? (·.1 == name)).map (·.2)

def ident (d : Draft) (name : String) : Option Uuid :=
  match d.cell? name with
  | some (.ident u) => u
  | _ => none

/-- A word, or what stands for a missing one. -/
def kindOr {α : Type} [Vocabulary α] (d : Draft) (name : String) (start : α) : α :=
  match d.cell? name with
  | some (.word s) => (Vocabulary.ofWord? s).getD start
  | _ => start

def kind? (α : Type) [Vocabulary α] (d : Draft) (name : String) : Option α :=
  match d.cell? name with
  | some (.word s) => Vocabulary.ofWord? s
  | _ => none

def stamp (d : Draft) (name : String) : Option Stamp :=
  match d.cell? name with
  | some (.stamp s) => s
  | _ => none

/-- A stamp that is the instant of the making where it is missing. -/
def stampOrMade (d : Draft) (name : String) : Option Stamp :=
  match d.cell? name with
  | some (.stamp s) => s
  | _ => some (.ofInstant d.made)

def valueOr (d : Draft) (name : String) (start : Json) : Json :=
  match d.cell? name with
  | some (.value v) => v
  | _ => start

def value (d : Draft) (name : String) : Json := d.valueOr name .null

/-! ## Reading drafts -/

def drawn : Reading (Option Uuid) := do
  let n ← get
  set (n + 1)
  return some (.counted (n + 1))

def fieldsOf (v : Json) : Reading Fields :=
  match v.fields? with
  | some fields => pure fields
  | none => throw .missingAttribute

/-- Reads an entity; one that has an identifier of its own draws it if none is given. -/
def ofFields (entity : Entity) (fields : Fields) : Reading Draft := do
  let cells ← readCells entity fields
  let d : Draft := ⟨← read, none, cells⟩
  match entity, d.cell? "id" with
  | .profile, _ => return d
  | _, some (.ident id) => return { d with id }
  | _, _ => return { d with id := ← drawn }

def ofJson (entity : Entity) (v : Json) : Reading Draft := do
  ofFields entity (← fieldsOf v)

def identText : Option Uuid → String
  | some u => u.text
  | none => Json.null.display

/-- A part of another entity, which it names first unless it does so itself. -/
def partOf (entity : Entity) (owner : String) (id : Option Uuid) (v : Json) : Reading Draft :=
  match v.fields? with
  | none => throw .wrongType
  | some fields =>
    let first := (Json.find? fields owner).getD (.text (identText id))
    ofFields entity ((owner, first) :: fields.filter (·.1 != owner))

/-- The items of a list of parts; nothing counts as the empty list. -/
def partsOf (entity : Entity) (owner : String) (id : Option Uuid) (v : Json) :
    Reading (List Draft) :=
  match v with
  | .array items => items.mapM (partOf entity owner id)
  | v => if v.isTruthy then throw .wrongType else pure []

def optional (read : Json → Reading Draft) (v : Json) : Reading (Option Draft) :=
  match v with
  | .null => pure none
  | v => some <$> read v

structure OfUser where
  user : Draft
  profile : Option Draft
  providers : List Draft

def without (names : List String) (fields : Fields) : Fields :=
  fields.filter fun f => !names.contains f.1

def ofUser (v : Json) : Reading OfUser := do
  let fields ← fieldsOf v
  let user ← ofFields .user (without ["profile", "providers"] fields)
  let profile ← optional (partOf .profile "user_id" user.id) ((v.field? "profile").getD .null)
  let providers ← partsOf .provider "user_id" user.id ((v.field? "providers").getD .null)
  return ⟨user, profile, providers⟩

structure OfMembership where
  membership : Draft
  workspace : Option Draft
  role : Option Draft

def ofMembership (v : Json) : Reading OfMembership := do
  let fields ← fieldsOf v
  let membership ← ofFields .membership (without ["workspace", "role"] fields)
  let workspace ← optional (ofJson .workspace) ((v.field? "workspace").getD .null)
  let role ← optional (ofJson .role) ((v.field? "role").getD .null)
  return ⟨membership, workspace, role⟩

end Draft

end Gatehouse
