import Gatehouse.Calendar.Stamp
import Gatehouse.Text.Quoted
import Gatehouse.Text.Utf8

/-!
# Stamps in ISO 8601

The wide form of a stamp. A date has hyphens or none and names a day of a month or of a week; any one
character separates it from the time of day, which has colons or none and may end after each of its
parts; an offset from UTC follows a sign or is the letter Z. Texts are read byte by byte, and behind
the last byte stands a zero.
-/

namespace Gatehouse.Iso8601

open Stamp (isLeap daysIn)

inductive Fault where
  | unreadable
  /-- An offset of a day or more, in microseconds. -/
  | farOffset (us : Int)
  | yearRange (year : Nat)
  | monthRange
  | dayRange
  | hourRange
  | minuteRange
  | secondRange
  deriving DecidableEq, Repr

/-- How a span is shown: its days, and the seconds and microseconds of the day that has begun. -/
def shownSpan (us : Int) : String :=
  let inDay := us.fmod Duration.day
  let part (name : String) (n : Int) : List String :=
    if n = 0 then [] else [name ++ "=" ++ toString n]
  let parts := part "days" (us.fdiv Duration.day) ++ part "seconds" (inDay / Duration.second) ++
    part "microseconds" (inDay % Duration.second)
  "datetime.timedelta(" ++ (if parts.isEmpty then "0" else ", ".intercalate parts) ++ ")"

def Fault.message (text : String) : Fault → String
  | .unreadable => "Invalid isoformat string: " ++ Quoted.quoted text
  | .farOffset us =>
    "offset must be a timedelta strictly between -timedelta(hours=24) and timedelta(hours=24), not " ++
      shownSpan us ++ "."
  | .yearRange year => "year " ++ toString year ++ " is out of range"
  | .monthRange => "month must be in 1..12"
  | .dayRange => "day is out of range for month"
  | .hourRange => "hour must be in 0..23"
  | .minuteRange => "minute must be in 0..59"
  | .secondRange => "second must be in 0..59"

/-! ## Bytes -/

def hyphen : UInt8 := 45

def colon : UInt8 := 58

def weekMark : UInt8 := 87

def zulu : UInt8 := 90

def isDigit (b : UInt8) : Bool := 48 ≤ b && b ≤ 57

def byteAt (bs : List UInt8) (i : Nat) : UInt8 := (bs[i]?).getD 0

def number? : (width : Nat) → List UInt8 → Option (Nat × List UInt8)
  | 0, bs => some (0, bs)
  | width + 1, b :: rest =>
    if isDigit b then
      (number? width rest).map fun (n, rest) =>
        ((b.toNat - 48) * Nat.pow 10 width + n, rest)
    else none
  | _, [] => none

/-! ## Dates -/

/-- Where the date ends. A week without hyphens takes a digit more as its day if an even number of
digits stays for the time. -/
def dateLength (bs : List UInt8) : Nat :=
  if bs.length = 7 then 7
  else if byteAt bs 4 = hyphen then
    if byteAt bs 5 = weekMark then
      if byteAt bs 8 = hyphen ∧ !(10 < bs.length ∧ isDigit (byteAt bs 10)) then 10 else 8
    else 10
  else if byteAt bs 4 = weekMark then
    let last := 7 + ((bs.drop 7).takeWhile isDigit).length
    if last < 9 then last else if last % 2 = 0 then 7 else 8
  else 8

/-- Days before the first of January of a year, counted from the first day of the year 1. -/
def daysBefore (year : Nat) : Nat :=
  let y := year - 1
  y * 365 + y / 4 - y / 100 + y / 400

/-- A year has 53 weeks if it begins on a Thursday, or on a Wednesday and has a leap day. -/
def weeksIn (year : Nat) : Nat :=
  let first := daysBefore year % 7
  if first = 3 ∨ (first = 2 ∧ isLeap year) then 53 else 52

/-- The day of a week as year, month and day. The first week is the one with the fourth of January, and
the last days of the last week may lie in the year 10000. The weeks of a year 0 have no month. -/
def ofWeek? (year week day : Nat) : Option (Nat × Nat × Nat) :=
  if year = 0 then if 1 ≤ week ∧ week ≤ 52 ∧ 1 ≤ day ∧ day ≤ 7 then some (1, 0, 0) else none
  else if 1 ≤ week ∧ week ≤ weeksIn year ∧ 1 ≤ day ∧ day ≤ 7 then
    let start := daysBefore year
    let monday : Int := if start % 7 ≤ 3 then start - start % 7 else start - start % 7 + 7
    let n : Int := monday + (week - 1) * 7 + (day - 1)
    if (daysBefore 10000 : Int) ≤ n then some (10000, 1, 1)
    else some (Stamp.civil (n - 719162))
  else none

def date? (bs : List UInt8) (length : Nat) : Option (Nat × Nat × Nat) := do
  let (year, rest) ← number? 4 bs
  let hyphens := rest.head? == some hyphen
  let skip (bs : List UInt8) : Option (List UInt8) :=
    if hyphens then if bs.head? == some hyphen then some (bs.drop 1) else none else some bs
  let rest ← skip rest
  if rest.head? == some weekMark then
    let (week, rest) ← number? 2 (rest.drop 1)
    let day ← if (if hyphens then 8 else 7) < length then do
        let (day, _) ← number? 1 (← skip rest)
        some day
      else some 1
    ofWeek? year week day
  else
    let (month, rest) ← number? 2 rest
    let (day, _) ← number? 2 (← skip rest)
    some (year, month, day)

/-! ## Times of day -/

structure Clock where
  hour : Nat
  minute : Nat
  second : Nat
  micro : Nat
  /-- Something follows that does not belong to the time. -/
  more : Bool
  deriving DecidableEq, Repr

/-- The fraction of a second in `room` bytes: up to six digits count, and digits behind them do not. -/
def fraction? (room : Nat) (bs : List UInt8) : Option (Nat × Bool) := do
  let width := min room 6
  let (n, rest) ← number? width bs
  some (n * Nat.pow 10 (6 - width), byteAt (rest.dropWhile isDigit) 0 != 0)

/-- The parts of a time, of which `left` more may come, in `room` bytes; one byte behind the last part
is passed over. -/
def hands? (colons : Option Bool) (done : List Nat) :
    (left room : Nat) → List UInt8 → Option Clock
  | 0, room, bs => do
    let (micro, more) ← fraction? room bs
    some (clock done micro more)
  | left + 1, room, bs => do
    let (n, rest) ← number? 2 bs
    let done := done ++ [n]
    let mark := byteAt rest 0
    let colons := colons.getD (mark == colon)
    if room ≤ 3 then some (clock done 0 (mark != 0))
    else if colons && mark == colon then hands? (some colons) done left (room - 3) (rest.drop 1)
    else if mark == 46 || mark == 44 then
      let (micro, more) ← fraction? (room - 3) (rest.drop 1)
      some (clock done micro more)
    else if colons then none
    else hands? (some colons) done left (room - 2) rest
where
  clock (done : List Nat) (micro : Nat) (more : Bool) : Clock :=
    ⟨(done[0]?).getD 0, (done[1]?).getD 0, (done[2]?).getD 0, micro, more⟩

def clock? (room : Nat) (bs : List UInt8) : Option Clock := hands? none [] 3 room bs

def isZoneMark (b : UInt8) : Bool := b == 43 || b == hyphen || b == zulu

/-- An offset in microseconds; one of less than a second counts as none. -/
def offset? (sign : Int) (bs : List UInt8) : Option Int := do
  let c ← clock? bs.length bs
  let seconds : Int := c.hour * 3600 + c.minute * 60 + c.second
  if c.more then none
  else some (if seconds = 0 then 0 else sign * (seconds * Duration.second + c.micro))

def time? (bs : List UInt8) : Option (Clock × Option Int) := do
  let room := (bs.takeWhile (!isZoneMark ·)).length
  let c ← clock? room bs
  match bs.drop room with
  | [] => if c.more then none else some (c, none)
  | mark :: rest =>
    if mark = zulu then if byteAt rest 0 = 0 then some (c, some 0) else none
    else (offset? (if mark = hyphen then -1 else 1) rest).map fun us => (c, some us)

/-! ## Stamps -/

/-- The bytes behind the separator, which is one character. -/
def afterSeparator (bs : List UInt8) : List UInt8 :=
  let mark := byteAt bs 0
  bs.drop (if mark < 0x80 then 1 else if 0xF0 ≤ mark then 4 else if 0xE0 ≤ mark then 3 else 2)

/-- The whole seconds nearest to an offset, a half going away from zero. -/
def nearestSecond (us : Int) : Int :=
  let size : Int := (us.natAbs + 500000) / 1000000
  if us < 0 then -size else size

def rangeFault? (year month day : Nat) (c : Clock) : Option Fault :=
  if year < 1 ∨ 9999 < year then some (.yearRange year)
  else if month < 1 ∨ 12 < month then some .monthRange
  else if day < 1 ∨ daysIn year month < day then some .dayRange
  else if 23 < c.hour then some .hourRange
  else if 59 < c.minute then some .minuteRange
  else if 59 < c.second then some .secondRange
  else none

def isFar (us : Int) : Bool := us ≤ -Duration.day || Duration.day ≤ us

def parts? (text : String) : Option ((Nat × Nat × Nat) × Clock × Option Int) := do
  let bs := Utf8.encode text
  let length := dateLength bs
  let date ← if text.length < 7 then none else date? bs length
  let (clock, offset) ← if bs.length ≤ length then some ((⟨0, 0, 0, 0, false⟩ : Clock), none)
    else time? (afterSeparator (bs.drop length))
  some (date, clock, offset)

/-- The stamp that a text writes. An offset out of range is found before any part of the stamp. -/
def read (text : String) : Except Fault Stamp :=
  match parts? text with
  | none => .error .unreadable
  | some ((year, month, day), c, offset) =>
    match offset.filter isFar with
    | some us => .error (.farOffset us)
    | none =>
      match rangeFault? year month day c with
      | some fault => .error fault
      | none =>
        .ok ⟨year, month, day, c.hour, c.minute, c.second, c.micro, offset.map nearestSecond⟩

end Gatehouse.Iso8601
