import Gatehouse.Calendar.Count
import Gatehouse.Calendar.Rfc3339
import Gatehouse.Shape

/-!
# Permission sets

The permissions of a role, in order and with repetitions, and the notes kept next to them. A set is
stored as JSON; what was stored is read back as it was.
-/

namespace Gatehouse

structure PermissionSet where
  permissions : List String
  version : String
  createdBy : String
  updatedBy : String
  updatedAt : Stamp
  description : Option String
  deriving DecidableEq, Repr

namespace PermissionSet

open Shape

/-- The stamp of an instant in the calendar; the year 0 lies outside. -/
def stampOf (t : Instant) : Checked Stamp :=
  if Instant.first ≤ t then .ok (.ofInstant t) else fail .datetimeParsing

/-- A count outside the range is reported as what it was given as. -/
def countStamp (misfit : Misfit) (count : Count) : Checked Stamp :=
  match count.instant? with
  | some t => stampOf t
  | none => fail misfit

/-- A stamp given as a text or as a count of time. Integers of more than 64 bits are taken as binary64
numbers, as long as they are finite. -/
def readStamp : Json → Checked Stamp
  | .text s =>
    match Rfc3339.read? s.toList with
    | some stamp => if stamp.isValid then .ok stamp else fail .datetimeParsing
    | none =>
      match Count.ofText? s.toList with
      | some count => countStamp .dateParsing count
      | none => fail .dateParsing
  | .integer n =>
    if Count.isWord n then countStamp .datetimeParsing (.whole n)
    else
      match Binary64.ofInt n with
      | .infinite _ => fail .datetimeType
      | x => countStamp .datetimeParsing (.real x)
  | .real x => countStamp .datetimeParsing (.real x)
  | _ => fail .datetimeType

def standard (now : Instant) (permissions : List String) : PermissionSet :=
  ⟨permissions, "1.0", "system", "system", .ofInstant now, none⟩

/-- Reads the notes and returns what fits a list of permissions to them. -/
def readNotes (now : Instant) (v : Json) : Checked (List String → PermissionSet) :=
  match object .modelType v with
  | .error e => .error e
  | .ok fields =>
    let start : Checked (String → String → String → Stamp → Option String →
        List String → PermissionSet) :=
      .ok fun version createdBy updatedBy updatedAt description permissions =>
        ⟨permissions, version, createdBy, updatedBy, updatedAt, description⟩
    also (also (also (also (also start
      (defaulted fields "version" "1.0" text))
      (defaulted fields "created_by" "system" text))
      (defaulted fields "updated_by" "system" text))
      (defaulted fields "updated_at" (.ofInstant now) readStamp))
      (defaulted fields "description" none optionalText)

/-- Reads what a role stores; whatever is empty stands for the empty object. -/
def read (now : Instant) (v : Json) : Checked PermissionSet :=
  match object .modelType (if v.isTruthy then v else .object []) with
  | .error e => .error e
  | .ok fields =>
    both (fun permissions notes => notes permissions)
      (defaulted fields "permissions" [] (list text))
      (defaulted fields "metadata" (standard now) (readNotes now))

def dump (p : PermissionSet) : Json :=
  .object [("permissions", .array (p.permissions.map .text)),
    ("metadata", .object [("version", .text p.version), ("created_by", .text p.createdBy),
      ("updated_by", .text p.updatedBy), ("updated_at", .text p.updatedAt.text),
      ("description", Json.ofOption .text p.description)])]

end PermissionSet

end Gatehouse
