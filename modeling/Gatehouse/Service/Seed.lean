import Gatehouse.Directory.Row
import Gatehouse.Service.Transaction

/-!
# Seeds

Rows that are put into the directory as they are given, and users that are changed by hand. What is put
in together is kept together or not at all.
-/

namespace Gatehouse.Seed

open Draft (Reading)

/-- Reads drafts; the identifiers drawn on the way stay drawn. -/
def reading {α : Type} (r : Reading α) : Run α := do
  let s ← get
  let (result, ids) := (r.run s.now).run.run s.ids
  set { s with ids }
  Run.ofExcept id result

/-- Writes rows for good. -/
def keep (write : Store.References → Store → Except Failure Store) : Run Unit :=
  Run.inTransaction do
    let s ← get
    let rows ← Run.ofExcept id (write s.references (← Run.rows))
    set { s with store := rows }

/-- A row as a table takes it, if its constraints allow it. -/
def added {α : Type} (row : Draft → Except Failure α) (add : Store → α → Option Store) (s : Store)
    (d : Draft) : Except Failure Store := do
  let r ← row d
  Row.filled (add s r)

def user (v : Json) : Run Unit := do
  let u ← reading (Draft.ofUser v)
  keep fun check s => do
    let s ← added Row.user Store.addUser? s u.user
    let s ← u.profile.toList.foldlM (added Row.profile (Store.addProfile? check)) s
    u.providers.foldlM (added Row.provider (Store.addProvider? check)) s

def workspace (v roles : Json) : Run Unit := do
  let (w, rs) ← reading do
    let w ← Draft.ofJson .workspace v
    return (w, ← Draft.partsOf .role "workspace_id" w.id roles)
  keep fun check s => do
    let s ← added Row.workspace (Store.addWorkspace? check) s w
    rs.foldlM (added Row.role (Store.addRole? check)) s

/-- A membership; a workspace or a role given with it is put in before it and is the one it has. -/
def membership (v : Json) : Run Unit := do
  let m ← reading (Draft.ofMembership v)
  let withIdent (part : Option Draft) (name : String) (d : Draft) : Draft :=
    match part with
    | some p => { d with cells := (name, .ident p.id) :: d.cells }
    | none => d
  keep fun check s => do
    let s ← m.workspace.toList.foldlM (added Row.workspace (Store.addWorkspace? check)) s
    let s ← m.role.toList.foldlM (added Row.role (Store.addRole? check)) s
    added Row.membership (Store.addMembership? check) s
      (withIdent m.workspace "workspace_id" (withIdent m.role "role_id" m.membership))

/-- Changes the user with an email, and tells how many there were. -/
def change (email values : Json) : Run Nat := do
  let s ← get
  let fields ← match values.fields? with
    | some fields => pure fields
    | none => throw .missingAttribute
  let cells ← Run.ofExcept id (Draft.readCells .user fields)
  if fields.any fun f => !Row.userColumns.contains f.1 then throw .unknownColumn
  let d : Draft := ⟨s.now, none, cells⟩
  let _ ← Run.ofExcept id (Row.text? (d.value "email"))
  let _ ← Run.ofExcept id (Row.text? (d.value "phone"))
  let email ← Run.ofExcept id (Row.text? email)
  let found := s.store.users.filter fun u => some u.email == email
  keep fun check s =>
    found.foldlM (fun s u => do Row.filled (s.replaceUser? check u (← Row.changed d u))) s
  return found.length

end Gatehouse.Seed
