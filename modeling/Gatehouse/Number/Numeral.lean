import Gatehouse.Number.Binary64
import Gatehouse.Text.Blank
import Gatehouse.Text.Digit

/-!
# Numerals

Numbers as people type them: blanks around, a sign, the digits of any script, and single
underscores between digits. A decimal numeral for an integer has at most 4300 digits.
-/

namespace Gatehouse.Numeral

/-! ## Characters -/

/-- A character in its plainest form: blanks outside ASCII become the space and decimal digits of
any script the ASCII digit. -/
def plain (c : Char) : Char :=
  if c.toNat < 128 then c
  else if Blank.isBlank c then ' '
  else
    match Digit.decimal? c with
    | some d => Char.ofNat (48 + d)
    | none => '?'

def isSpace (c : Char) : Bool :=
  c == ' ' || (9 ≤ c.toNat && c.toNat ≤ 13)

def isDigit (base : Nat) (c : Char) : Bool :=
  match Digit.value? c with
  | some d => c.toNat < 128 && d < base
  | none => false

def core (s : String) : List Char :=
  Blank.stripBy isSpace (s.toList.map plain)

/-- Splits a sign off; `true` stands for minus. -/
def splitSign : List Char → Bool × List Char
  | '-' :: rest => (true, rest)
  | '+' :: rest => (false, rest)
  | cs => (false, cs)

/-- Each underscore stands between two digits; `before` tells whether a digit comes before. -/
def separated (base : Nat) : (before : Bool) → List Char → Bool
  | _, [] => true
  | before, '_' :: rest =>
    before && (match rest with | c :: _ => isDigit base c | [] => false) && separated base false rest
  | _, c :: rest => separated base (isDigit base c) rest

def fold (base : Nat) (digits : List Char) : Nat :=
  digits.foldl (fun n c => n * base + (Digit.value? c).getD 0) 0

/-! ## Integers -/

inductive Problem where
  | malformed
  | tooLong (digits : Nat)
  deriving DecidableEq, Repr

def maxDigits : Nat := 4300

/-- A base-16 numeral may start with `0x`, which one underscore may follow. -/
def dropMark (base : Nat) : List Char → List Char
  | '0' :: 'x' :: '_' :: rest => if base = 16 then rest else '0' :: 'x' :: '_' :: rest
  | '0' :: 'X' :: '_' :: rest => if base = 16 then rest else '0' :: 'X' :: '_' :: rest
  | '0' :: 'x' :: rest => if base = 16 then rest else '0' :: 'x' :: rest
  | '0' :: 'X' :: rest => if base = 16 then rest else '0' :: 'X' :: rest
  | cs => cs

/-- Reads an integer. The limit on digits is for base 10 only, and an overlong row of digits is
reported before anything that follows it. -/
def integer (base : Nat) (s : String) : Except Problem Int :=
  let (negative, rest) := splitSign (core s)
  let rest := dropMark base rest
  let row := rest.takeWhile fun c => isDigit base c || c == '_'
  let digits := row.filter (· != '_')
  if digits.isEmpty || !separated base false row then .error .malformed
  else if base = 10 ∧ maxDigits < digits.length then .error (.tooLong digits.length)
  else if row.length < rest.length then .error .malformed
  else
    let n : Int := fold base digits
    .ok (if negative then -n else n)

/-! ## Real numbers -/

/-- The exponent part of a decimal: absent, or `e`, a sign and digits. -/
def exponent? : List Char → Option Int
  | [] => some 0
  | mark :: rest =>
    let (negative, digits) := splitSign rest
    if (mark == 'e' || mark == 'E') && !digits.isEmpty && digits.all (isDigit 10) then
      let n : Int := fold 10 digits
      some (if negative then -n else n)
    else none

/-- Digits with at most one point among them, then perhaps an exponent. -/
def decimal? (negative : Bool) (cs : List Char) : Option Binary64 :=
  let whole := cs.takeWhile (isDigit 10)
  let rest := cs.drop whole.length
  let (part, rest) := match rest with
    | '.' :: more => (more.takeWhile (isDigit 10), more.dropWhile (isDigit 10))
    | _ => ([], rest)
  if whole.isEmpty && part.isEmpty then none
  else
    (exponent? rest).map fun e =>
      Binary64.ofDecimal negative (fold 10 (whole ++ part)) (e - part.length)

/-- Reads a real number, also written as infinity or as no number. -/
def real? (s : String) : Option Binary64 :=
  let cs := core s
  let (negative, rest) := splitSign cs
  let word := String.ofList (rest.map Char.toLower)
  if word == "inf" || word == "infinity" then some (.infinite negative)
  else if word == "nan" then some .nan
  else if !separated 10 false cs then none
  else decimal? negative (rest.filter (· != '_'))

end Gatehouse.Numeral
