import Gatehouse.Calendar.Instant
import Gatehouse.Json.Reader

/-!
# Stamps

A date and a time of day as they are written, with or without an offset from UTC. Stamps are written
in ISO form, and here are the pieces from which their readers are made.
-/

namespace Gatehouse

/-- The offset is in seconds east of UTC; without one, the stamp belongs to no zone. -/
structure Stamp where
  year : Nat
  month : Nat
  day : Nat
  hour : Nat
  minute : Nat
  second : Nat
  micro : Nat
  offset : Option Int
  deriving DecidableEq, Repr, Inhabited

namespace Stamp

/-! ## The calendar -/

def isLeap (year : Nat) : Bool := year % 4 = 0 && (year % 100 != 0 || year % 400 = 0)

def daysIn (year month : Nat) : Nat :=
  if month = 2 then if isLeap year then 29 else 28
  else if month = 4 ∨ month = 6 ∨ month = 9 ∨ month = 11 then 30
  else 31

/-- A day and a time of day that exist, in a year of four digits. -/
def isWritten (s : Stamp) : Bool :=
  s.year ≤ 9999 && 1 ≤ s.month && s.month ≤ 12 && 1 ≤ s.day && s.day ≤ daysIn s.year s.month &&
    s.hour ≤ 23 && s.minute ≤ 59 && s.second ≤ 59 && s.micro < 1000000

/-- The calendar begins with the year 1. -/
def isValid (s : Stamp) : Bool := 1 ≤ s.year && s.isWritten

/-- Year, month and day of the `n`-th day after the start of 1970. Years are counted from March, in
cycles of 400 years with 146097 days. -/
def civil (n : Int) : Nat × Nat × Nat :=
  let n := n + 719468
  let cycle := n.fdiv 146097
  let inCycle := (n - cycle * 146097).toNat
  let year := (inCycle - inCycle / 1460 + inCycle / 36524 - inCycle / 146096) / 365
  let inYear := inCycle - (365 * year + year / 4 - year / 100)
  let shifted := (5 * inYear + 2) / 153
  let day := inYear - (153 * shifted + 2) / 5 + 1
  let month := if shifted < 10 then shifted + 3 else shifted - 9
  let year := (year + cycle * 400 + (if month ≤ 2 then 1 else 0)).toNat
  let year := max 1 (min year 9999)
  let month := max 1 (min month 12)
  (year, month, max 1 (min day (daysIn year month)))

def ofInstant (t : Instant) : Stamp :=
  let seconds := t.wholeSeconds
  let (year, month, day) := civil (seconds.fdiv 86400)
  let inDay := (seconds.fmod 86400).toNat
  ⟨year, month, day, inDay / 3600 % 24, inDay / 60 % 60, inDay % 60,
    (t.fmod Duration.second).toNat % 1000000, some 0⟩

def naive (s : Stamp) : Stamp := { s with offset := none }

/-! ## Writing -/

def digits : (width : Nat) → Nat → List Char
  | 0, _ => []
  | width + 1, n => digits width (n / 10) ++ [Char.ofNat (48 + n % 10)]

def zoneText (utc : List Char) : Option Int → List Char
  | none => []
  | some offset =>
    if offset = 0 then utc
    else
      let minutes := offset.natAbs / 60
      (if offset < 0 then '-' else '+') :: digits 2 (minutes / 60) ++ ':' :: digits 2 (minutes % 60)

/-- The ISO form; a fraction is written only if there is one. -/
def chars (utc : List Char) (s : Stamp) : List Char :=
  digits 4 s.year ++ '-' :: digits 2 s.month ++ '-' :: digits 2 s.day ++
    'T' :: digits 2 s.hour ++ ':' :: digits 2 s.minute ++ ':' :: digits 2 s.second ++
    (if s.micro = 0 then [] else '.' :: digits 6 s.micro) ++ zoneText utc s.offset

/-- The form of answers, where UTC is the letter Z. -/
def text (s : Stamp) : String := String.ofList (chars ['Z'] s)

/-- The form of events, where UTC is an offset like any other. -/
def longText (s : Stamp) : String := String.ofList (chars "+00:00".toList s)

/-! ## Pieces of written stamps -/

def number? (width : Nat) (cs : List Char) : Option (Nat × List Char) :=
  let ds := cs.take width
  if ds.length = width ∧ ds.all Json.isDigit then some (Json.digitsValue ds, cs.drop width)
  else none

def expect (p : Char → Bool) : List Char → Option (List Char)
  | c :: rest => if p c then some rest else none
  | [] => none

/-- The microseconds that the digits of a fraction write; what lies below a microsecond is cut off. -/
def microsOf (ds : List Char) : Nat :=
  Json.digitsValue ((ds ++ List.replicate (6 - ds.length) '0').take 6)

end Stamp

end Gatehouse
