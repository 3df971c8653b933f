import Gatehouse.Email.Address
import Gatehouse.Http.Message
import Gatehouse.Json.Encoding
import Gatehouse.Json.Part

/-!
# Request bodies

A body is read as JSON if its type says so. What is no JSON at all is found out before anything else
is done; the fields of a body are looked at only when the caller is known. A report of misfits quotes
what does not fit, so it cannot be written where that cannot.
-/

namespace Gatehouse.Http

open Shape (Checked Fields)

/-! ## Content types -/

/-- Stands for a missing type; an empty one is a type of its own, and not JSON. -/
def defaultType : String := "application/json"

/-- The two sides of a content type without its parameters, in lower case. -/
def mediaType (header : String) : List (List Char) :=
  let words := Blank.stripBy Blank.isBlank (header.toList.takeWhile (· != ';'))
  Split.on '/' (Lower.lowerText words)

/-- JSON, and the types that are written in it. -/
def isJsonType (header : String) : Bool :=
  match mediaType header with
  | [kind, format] =>
    kind == "application".toList && (format == "json".toList || "+json".toList.isSuffixOf format)
  | _ => false

/-! ## Contents -/

inductive BodyFault where
  | notJson
  /-- Not text at all, or JSON beyond the limits of nesting or of digits. -/
  | unreadable
  deriving DecidableEq, Repr

inductive Content where
  | absent
  | json (v : Json)
  /-- Of another type. -/
  | other (s : String)

def parse (r : Request) : Except BodyFault Content :=
  if r.body.isEmpty then .ok .absent
  else if !isJsonType ((r.header? "content-type").getD defaultType) then .ok (.other r.body)
  else
    match Json.Encoding.decode? (Utf8.encode r.body) with
    | none => .error .unreadable
    | some s =>
      match Json.read Json.lenient s with
      | .ok v => .ok (.json v)
      | .error .malformed => .error .notJson
      | .error _ => .error .unreadable

def readBody {α : Type} (read : Fields → Checked α) (content : Content) : Checked α :=
  Shape.under "body" (match content with
    | .absent => Shape.fail .missing
    | .other _ => Shape.fail .attributesType
    | .json v =>
      match Shape.object .attributesType v with
      | .error e => .error e
      | .ok fields => read fields)

/-! ## Reports -/

/-- What a report quotes: the value that does not fit, or the whole that a field is missing in. -/
def quotation (content : Content) (d : Shape.Detail) : Json :=
  match content with
  | .json v =>
    if d.misfit = .missing then v
    else (d.path.drop 1).foldl (fun v step => (v.field? step).getD .null) v
  | _ => .null

/-- Reports misfits, if their quotations can be written. -/
def report (content : Content) (details : List Shape.Detail) : Run Response :=
  let quotations := details.map (quotation content)
  if quotations.any (Json.somePart Json.isUnbounded) then
    throw (.value "Out of range float values are not JSON compliant")
  else if quotations.any (Json.somePart Json.isTorn) then throw .unencodable
  else return .misfit details

end Gatehouse.Http
