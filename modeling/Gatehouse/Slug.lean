import Gatehouse.Text.Blank
import Gatehouse.Text.Lower

/-!
# Slugs

Names made fit for an address: lower-case letters, digits and single hyphens between them. The search
for a free slug tries the plain one first and then counts up.
-/

namespace Gatehouse.Slug

/-! ## From a name -/

def isAllowed (c : Char) : Bool :=
  ('a' ≤ c && c ≤ 'z') || ('0' ≤ c && c ≤ '9') || c == '-'

def isHyphen (c : Char) : Bool := c == '-'

/-- Keeps one hyphen of each row of them. -/
def squeeze : List Char → List Char
  | '-' :: '-' :: rest => squeeze ('-' :: rest)
  | c :: rest => c :: squeeze rest
  | [] => []

def fallback : String := "workspace"

def orFallback (cs : List Char) : String :=
  if cs.isEmpty then fallback else String.ofList cs

def ofName (name : String) : String :=
  let hyphened := (Lower.lowerText name.toList).map fun c => if c = ' ' then '-' else c
  orFallback (Blank.stripBy isHyphen (squeeze (hyphened.filter isAllowed)))

/-! ## Free slugs -/

/-- The width of the column that holds slugs. -/
def maxLength : Nat := 100

def maxSuffix : Int := 1000

/-- The first `room` characters; a negative `room` counts from the end. -/
def cut (room : Int) (cs : List Char) : List Char :=
  if room < 0 then cs.take (cs.length - room.natAbs) else cs.take room.toNat

/-- The slug of a name, cut so that a hyphen and the largest suffix still fit. -/
def base (name : String) (largest : Int) : String :=
  let slug := ofName name
  let room : Int := maxLength - (1 + (toString largest).length)
  if room < slug.length then
    orFallback ((cut room slug.toList).reverse.dropWhile isHyphen).reverse
  else slug

/-- The plain slug for 0, and a counted one from 1 on. -/
def candidate (base : String) (i : Nat) : String :=
  if i = 0 then base else base ++ "-" ++ toString i

inductive Search where
  | found (slug : String)
  | checkFailed
  | exhausted
  deriving DecidableEq, Repr

/-- Tries `left` candidates from number `i` on. A check that has no answer ends the search. -/
def searchFrom {m : Type → Type} [Monad m] (taken : String → m (Option Bool)) (base : String) :
    (left i : Nat) → m Search
  | 0, _ => pure .exhausted
  | left + 1, i => do
    match ← taken (candidate base i) with
    | none => pure .checkFailed
    | some true => searchFrom taken base left (i + 1)
    | some false => pure (.found (candidate base i))

def search {m : Type → Type} [Monad m] (taken : String → m (Option Bool)) (name : String)
    (largest : Int) : m Search :=
  searchFrom taken (base name largest) (largest.toNat + 1) 0

end Gatehouse.Slug
