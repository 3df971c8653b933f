import Gatehouse.Calendar.Stamp

/-!
# Stamps in requests

The internet form of a stamp: a full date, a separator, a time of day of which the seconds may be left
out, and an offset from UTC that may be left out too. A date alone stands for its midnight. The year
zero can be written.
-/

namespace Gatehouse.Rfc3339

open Stamp

def secondsPart? (cs : List Char) : Option (Nat × Nat × List Char) :=
  match cs with
  | ':' :: rest => do
    let (second, rest) ← number? 2 rest
    match rest with
    | mark :: more =>
      if mark = '.' ∨ mark = ',' then
        let ds := more.takeWhile Json.isDigit
        if ds.isEmpty then none else some (second, microsOf ds, more.drop ds.length)
      else some (second, 0, rest)
    | [] => some (second, 0, [])
  | _ => some (0, 0, cs)

/-- The offset at the end: nothing, the letter Z, or a sign with hours and minutes. -/
def zonePart? (cs : List Char) : Option (Option Int) :=
  match cs with
  | [] => some none
  | mark :: rest =>
    if mark = 'Z' ∨ mark = 'z' then if rest.isEmpty then some (some 0) else none
    else if mark = '+' ∨ mark = '-' ∨ mark = '\u2212' then do
      let (hours, rest) ← number? 2 rest
      let rest := match rest with
        | ':' :: more => more
        | _ => rest
      let (minutes, rest) ← number? 2 rest
      let size : Int := (hours * 60 + minutes) * 60
      if !rest.isEmpty || 60 ≤ minutes || 86400 ≤ size then none
      else some (some (if mark = '+' then size else -size))
    else none

def isSeparator (c : Char) : Bool := c == 'T' || c == 't' || c == ' ' || c == '_'

def read? (cs : List Char) : Option Stamp := do
  let (year, rest) ← number? 4 cs
  let rest ← expect (· == '-') rest
  let (month, rest) ← number? 2 rest
  let rest ← expect (· == '-') rest
  let (day, rest) ← number? 2 rest
  let stamp ←
    if rest.isEmpty then some ⟨year, month, day, 0, 0, 0, 0, none⟩
    else do
      let rest ← expect isSeparator rest
      let (hour, rest) ← number? 2 rest
      let rest ← expect (· == ':') rest
      let (minute, rest) ← number? 2 rest
      let (second, micro, rest) ← secondsPart? rest
      let offset ← zonePart? rest
      some ⟨year, month, day, hour, minute, second, micro, offset⟩
  if stamp.isWritten then some stamp else none

end Gatehouse.Rfc3339
