import Gatehouse.Number.Binary64
import Gatehouse.Text.Raw

/-!
# JSON values

Values with ordered objects, and integers kept apart from reals. A name occurs at most once in an
object built by `set`. Texts and names that are torn have values of their own.
-/

namespace Gatehouse

inductive Json where
  | null
  | bool (b : Bool)
  | integer (n : Int)
  | real (x : Binary64)
  | text (s : String)
  | torn (codes : List Nat)
  | array (items : List Json)
  | object (fields : List (String × Json))
  /-- An object with a torn name. -/
  | tornObject (fields : List (RawText × Json))
  deriving Inhabited, BEq, Repr

namespace Json

/-- Gives a name a value: in place where the name is present, at the end where it is not. -/
def set {α : Type} [BEq α] (fields : List (α × Json)) (name : α) (v : Json) : List (α × Json) :=
  if fields.any (·.1 == name) then fields.map fun f => if f.1 == name then (name, v) else f
  else fields ++ [(name, v)]

def find? (fields : List (String × Json)) (name : String) : Option Json :=
  (fields.find? (·.1 == name)).map (·.2)

def fields? : Json → Option (List (String × Json))
  | object fields => some fields
  | tornObject fields => some (fields.filterMap fun (name, v) => name.whole?.map (·, v))
  | _ => none

def field? (v : Json) (name : String) : Option Json := v.fields?.bind (find? · name)

def ofRaw : RawText → Json
  | .whole s => text s
  | .torn codes => torn codes

def ofFields (fields : List (RawText × Json)) : Json :=
  match fields.mapM fun (name, v) => name.whole?.map (·, v) with
  | some fields => object fields
  | none => tornObject fields

def text? : Json → Option String
  | text s => some s
  | _ => none

def raw? : Json → Option RawText
  | text s => some (.whole s)
  | torn codes => some (.torn codes)
  | _ => none

def isNull : Json → Bool
  | null => true
  | _ => false

/-- Everything counts as true except null, false, zero and what is empty. -/
def isTruthy : Json → Bool
  | null => false
  | bool b => b
  | integer n => n != 0
  | real x => !x.isZero
  | text s => !s.isEmpty
  | torn codes => !codes.isEmpty
  | array items => !items.isEmpty
  | object fields => !fields.isEmpty
  | tornObject fields => !fields.isEmpty

def ofOption {α : Type} (f : α → Json) : Option α → Json
  | none => null
  | some a => f a

end Json

end Gatehouse
