import Gatehouse.Text.Printable

/-!
# Quoted texts

How a text is shown inside a message: between quotes, with everything that would not print spelled
out as an escape.
-/

namespace Gatehouse.Quoted

def hexDigit (n : Nat) : Char :=
  if n < 10 then Char.ofNat (48 + n) else Char.ofNat (87 + n)

/-- The last `width` hexadecimal digits of `n`, in lower case. -/
def hex : (width : Nat) → Nat → List Char
  | 0, _ => []
  | width + 1, n => hex width (n / 16) ++ [hexDigit (n % 16)]

def singleQuote : Char := Char.ofNat 39

def escape (quote c : Char) : List Char :=
  if c = quote ∨ c = '\\' then ['\\', c]
  else if c = '\n' then ['\\', 'n']
  else if c = '\r' then ['\\', 'r']
  else if c = '\t' then ['\\', 't']
  else if Printable.isPrintable c then [c]
  else if c.toNat < 0x100 then '\\' :: 'x' :: hex 2 c.toNat
  else if c.toNat < 0x10000 then '\\' :: 'u' :: hex 4 c.toNat
  else '\\' :: 'U' :: hex 8 c.toNat

/-- Single quotes, unless the text holds one of them and no double quote. -/
def quoteFor (cs : List Char) : Char :=
  if singleQuote ∈ cs ∧ '"' ∉ cs then '"' else singleQuote

def quoted (s : String) : String :=
  let quote := quoteFor s.toList
  String.ofList (quote :: s.toList.flatMap (escape quote) ++ [quote])

/-- The quoted form of a numeral that cannot be read; of a long one only the beginning is shown. -/
def numeral (s : String) : String :=
  String.ofList ((quoted s).toList.take 200)

end Gatehouse.Quoted
