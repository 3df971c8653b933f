import Gatehouse.Json.Basic

/-!
# Parts of values

What holds of some value inside another, and the two kinds of parts that no JSON text can hold.
-/

namespace Gatehouse.Json

mutual

/-- Whether a property holds of the value itself or of a value inside it. -/
def somePart (p : Json → Bool) : Json → Bool
  | array items => p (array items) || someItem p items
  | object fields => p (object fields) || someField p fields
  | tornObject fields => p (tornObject fields) || someTornField p fields
  | v => p v

def someItem (p : Json → Bool) : List Json → Bool
  | [] => false
  | v :: rest => somePart p v || someItem p rest

def someField (p : Json → Bool) : List (String × Json) → Bool
  | [] => false
  | (_, v) :: rest => somePart p v || someField p rest

def someTornField (p : Json → Bool) : List (RawText × Json) → Bool
  | [] => false
  | (_, v) :: rest => somePart p v || someTornField p rest

end

def isUnbounded : Json → Bool
  | real .nan | real (.infinite _) => true
  | _ => false

/-- A torn text, or an object with a torn name. -/
def isTorn : Json → Bool
  | torn _ | tornObject _ => true
  | _ => false

end Gatehouse.Json
