import Gatehouse.Service.State

/-!
# Transactions

Reads and writes go to the rows of the transaction, and only a commit hands them to the store. A
write that violates a constraint fails the transaction until it is rolled back.
-/

namespace Gatehouse

def Service.rolledBack (s : Service) : Service := { s with transaction := ⟨s.store, false⟩ }

namespace Run

def rows : Run Store := do
  let t := (← get).transaction
  if t.failed then throw .staleTransaction else return t.rows

def stage (rows : Store) : Run Unit :=
  modify fun s => { s with transaction := ⟨rows, false⟩ }

/-- A write that constraints may forbid. -/
def insert (write : Store.References → Store → Option Store) : Run Unit := do
  let before ← rows
  match write (← get).references before with
  | some after => stage after
  | none =>
    modify fun s => { s with transaction := ⟨s.store, true⟩ }
    throw .violation

def commit : Run Unit :=
  guarded .commit (fun _ => return ()) do
    let committed ← rows
    modify fun s => { s with store := committed }

def rollback : Run Unit := modify Service.rolledBack

/-- Runs a body and drops whatever it left uncommitted, also when it fails. -/
def inTransaction {α : Type} (body : Run α) : Run α :=
  ExceptT.mk do
    let outcome ← body.run
    modify Service.rolledBack
    return outcome

/-- Runs a body and shows its failure instead of failing. -/
def attempt {α : Type} (body : Run α) : Run (Except Failure α) :=
  ExceptT.mk do
    let outcome ← body.run
    return .ok outcome

/-- Runs a body whose failure only leaves a warning. -/
def bestEffort (warning : String) (body : Run Unit) : Run Unit :=
  tryCatch body fun _ => log .warning warning

end Run

end Gatehouse
