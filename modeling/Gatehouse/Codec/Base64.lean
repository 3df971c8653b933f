/-!
# Base64

Writing bytes in groups of six bits, in the URL-safe alphabet and in that of password hashes, and a
forgiving reader for the first. The reader skips what is not a digit, takes both spellings of the
last two digits, and ends at a completed padding.
-/

namespace Gatehouse.Base64

/-! ## Writing -/

def digit (v : Nat) : Char :=
  if v < 26 then Char.ofNat (65 + v)
  else if v < 52 then Char.ofNat (71 + v)
  else if v < 62 then Char.ofNat (v - 4)
  else if v = 62 then '-'
  else '_'

/-- Three bytes give four digits; one or two left over give two or three. -/
def encode (digit : Nat → Char) (pad : List Char) : List UInt8 → List Char
  | [] => []
  | [a] =>
    let a := a.toNat
    [digit (a / 4), digit (a % 4 * 16)] ++ pad ++ pad
  | [a, b] =>
    let a := a.toNat
    let b := b.toNat
    [digit (a / 4), digit (a % 4 * 16 + b / 16), digit (b % 16 * 4)] ++ pad
  | a :: b :: c :: rest =>
    let a := a.toNat
    let b := b.toNat
    let c := c.toNat
    [digit (a / 4), digit (a % 4 * 16 + b / 16), digit (b % 16 * 4 + c / 64), digit (c % 64)] ++
      encode digit pad rest

def encodePadded (bytes : List UInt8) : String :=
  String.ofList (encode digit ['='] bytes)

def encodeBare (bytes : List UInt8) : String :=
  String.ofList (encode digit [] bytes)

/-! ## Reading -/

def digit? (c : UInt8) : Option Nat :=
  let n := c.toNat
  if 65 ≤ n ∧ n ≤ 90 then some (n - 65)
  else if 97 ≤ n ∧ n ≤ 122 then some (n - 71)
  else if 48 ≤ n ∧ n ≤ 57 then some (n + 4)
  else if n = 43 ∨ n = 45 then some 62
  else if n = 47 ∨ n = 95 then some 63
  else none

/-- Reads on at place `place` of a group of four, with the bits `held` of the byte under way and
`pads` padding signs directly before. -/
def decodeFrom : (place held pads : Nat) → List UInt8 → Option (List UInt8)
  | place, _, _, [] => if place = 0 then some [] else none
  | place, held, pads, c :: rest =>
    if c = 61 then
      if place < 2 then decodeFrom place held pads rest
      else if 4 ≤ place + (pads + 1) then some []
      else decodeFrom place held (pads + 1) rest
    else
      match digit? c with
      | none => decodeFrom place held pads rest
      | some v =>
        match place with
        | 0 => decodeFrom 1 v 0 rest
        | 1 => (decodeFrom 2 (v % 16) 0 rest).map (UInt8.ofNat (held * 4 + v / 16) :: ·)
        | 2 => (decodeFrom 3 (v % 4) 0 rest).map (UInt8.ofNat (held * 16 + v / 4) :: ·)
        | _ => (decodeFrom 0 0 0 rest).map (UInt8.ofNat (held * 64 + v) :: ·)

def decode (bytes : List UInt8) : Option (List UInt8) :=
  decodeFrom 0 0 0 bytes

/-- Reads a text whose padding was left off: it is first brought to a multiple of four. -/
def decodeBare (bytes : List UInt8) : Option (List UInt8) :=
  decode (bytes ++ List.replicate ((4 - bytes.length % 4) % 4) 61)

/-- The whole bytes that a row of digits fills; bits left over are dropped. -/
def ofDigits : List Nat → List UInt8
  | a :: b :: c :: d :: rest =>
    UInt8.ofNat (a * 4 + b / 16) :: UInt8.ofNat (b % 16 * 16 + c / 4) ::
      UInt8.ofNat (c % 4 * 64 + d) :: ofDigits rest
  | [a, b, c] => [UInt8.ofNat (a * 4 + b / 16), UInt8.ofNat (b % 16 * 16 + c / 4)]
  | [a, b] => [UInt8.ofNat (a * 4 + b / 16)]
  | _ => []

end Gatehouse.Base64
