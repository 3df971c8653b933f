import Gatehouse.Text.Raw

/-!
# Encodings of JSON

JSON arrives as bytes in UTF-8, UTF-16 or UTF-32. It begins with an ASCII character, and mostly with
two, so the zeros among the first bytes tell the encoding.
-/

namespace Gatehouse.Json

inductive Encoding where
  | utf8
  | utf16 (highFirst : Bool)
  | utf32 (highFirst : Bool)
  deriving DecidableEq, Repr

namespace Encoding

/-- Four bytes are looked at, or two if there are no more. -/
def detect : List UInt8 → Encoding
  | [a, b] => if a = 0 then .utf16 true else if b = 0 then .utf16 false else .utf8
  | a :: b :: c :: d :: _ =>
    if a = 0 then if b = 0 then .utf32 true else .utf16 true
    else if b = 0 then if c = 0 ∧ d = 0 then .utf32 false else .utf16 false
    else .utf8
  | _ => .utf8

def number (highFirst : Bool) (bytes : List UInt8) : Nat :=
  (if highFirst then bytes else bytes.reverse).foldl (fun n b => 256 * n + b.toNat) 0

/-- The numbers of the pairs; there is no byte left over. -/
def pairs? (highFirst : Bool) : List UInt8 → Option (List Nat)
  | [] => some []
  | a :: b :: rest => (pairs? highFirst rest).map (number highFirst [a, b] :: ·)
  | _ => none

/-- The numbers of the groups of four, each the number of a character or of a surrogate. -/
def fours? (highFirst : Bool) : List UInt8 → Option (List Nat)
  | [] => some []
  | a :: b :: c :: d :: rest =>
    let n := number highFirst [a, b, c, d]
    if n < 0x110000 then (fours? highFirst rest).map (n :: ·) else none
  | _ => none

/-- A lone surrogate is put as its escape, which means the same inside a text and is as wrong
outside of one. -/
def characters (codes : List Nat) : List Char :=
  codes.flatMap fun n =>
    if RawText.isHigh n || RawText.isLow n then '\\' :: 'u' :: Quoted.hex 4 n else [Char.ofNat n]

/-- In UTF-8 a mark of the byte order at the start does not count. -/
def decode? (bytes : List UInt8) : Option String :=
  match detect bytes with
  | .utf8 => (Utf8.decode bytes).map fun s =>
    match s.toList with
    | '\uFEFF' :: rest => String.ofList rest
    | _ => s
  | .utf16 highFirst =>
    (pairs? highFirst bytes).map fun units => String.ofList (characters (RawText.join units))
  | .utf32 highFirst => (fours? highFirst bytes).map fun codes => String.ofList (characters codes)

end Encoding

end Gatehouse.Json
