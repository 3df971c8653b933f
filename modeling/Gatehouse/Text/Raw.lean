import Gatehouse.Text.Quoted
import Gatehouse.Text.Utf8

/-!
# Raw texts

Texts as escapes can write them. Nearly all are strings; a text with a surrogate that has no partner is
none and is kept as its codes. Such a torn text can be counted, compared and shown, but it has no bytes.
-/

namespace Gatehouse

inductive RawText where
  | whole (s : String)
  | torn (codes : List Nat)
  deriving DecidableEq, Repr, Inhabited

namespace RawText

def isHigh (n : Nat) : Bool := 0xD800 ≤ n && n < 0xDC00

def isLow (n : Nat) : Bool := 0xDC00 ≤ n && n < 0xE000

/-- Joins the surrogates that stand side by side as partners. -/
def join : List Nat → List Nat
  | high :: low :: rest =>
    if isHigh high && isLow low then
      (0x10000 + (high - 0xD800) * 1024 + (low - 0xDC00)) :: join rest
    else high :: join (low :: rest)
  | codes => codes

/-- The text of codes among which no partners stand side by side. -/
def ofCodes (codes : List Nat) : RawText :=
  if codes.any fun n => isHigh n || isLow n then torn codes
  else whole (String.ofList (codes.map Char.ofNat))

def whole? : RawText → Option String
  | whole s => some s
  | torn _ => none

/-- The characters, with a substitute in the place of every lone surrogate. -/
def chars (substitute : Char) : RawText → List Char
  | whole s => s.toList
  | torn codes => codes.map fun n => if isHigh n || isLow n then substitute else Char.ofNat n

/-- The bytes; a torn text has none. -/
def bytes? : RawText → Option (List UInt8)
  | whole s => some (Utf8.encode s)
  | torn _ => none

/-- The quoted form, in which lone surrogates are escapes. -/
def quoted : RawText → String
  | whole s => Quoted.quoted s
  | torn codes =>
    let quote := Quoted.quoteFor (codes.map Char.ofNat)
    let escape (n : Nat) : List Char :=
      if isHigh n || isLow n then '\\' :: 'u' :: Quoted.hex 4 n
      else Quoted.escape quote (Char.ofNat n)
    String.ofList (quote :: codes.flatMap escape ++ [quote])

end RawText

end Gatehouse
