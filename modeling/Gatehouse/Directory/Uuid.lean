import Gatehouse.Number.Numeral
import Gatehouse.Shape
import Gatehouse.Text.Quoted

/-!
# UUIDs

Identifiers of 128 bits, written as 32 hexadecimal digits in five groups. There is a strict reader
for requests and a forgiving one for what tokens carry.
-/

namespace Gatehouse

structure Uuid where
  bits : BitVec 128
  deriving DecidableEq, Repr, Inhabited

namespace Uuid

def digits (u : Uuid) : List Char := Quoted.hex 32 u.bits.toNat

def chars (u : Uuid) : List Char :=
  let ds := u.digits
  ds.take 8 ++ '-' :: (ds.drop 8).take 4 ++ '-' :: (ds.drop 12).take 4 ++
    '-' :: (ds.drop 16).take 4 ++ '-' :: ds.drop 20

def text (u : Uuid) : String := String.ofList u.chars

/-- The `n`-th identifier that is drawn. -/
def counted (n : Nat) : Uuid :=
  ⟨BitVec.ofNat 128 (0x00000000000040008000000000000000 + n % 0x1000000000000)⟩

/-! ## Strict reading -/

def isHex (c : Char) : Bool := Numeral.isDigit 16 c

def ofDigits? (ds : List Char) : Option Uuid :=
  if ds.length = 32 ∧ ds.all isHex then some ⟨BitVec.ofNat 128 (Numeral.fold 16 ds)⟩ else none

def ofGroups? (cs : List Char) : Option Uuid :=
  let hyphens := [8, 13, 18, 23].all fun i => cs[i]? == some '-'
  if cs.length = 36 ∧ hyphens then ofDigits? (cs.filter (· != '-')) else none

/-- Digits alone, in groups, in groups between braces, or in groups after the mark of a name. -/
def ofForm? (s : String) : Option Uuid :=
  let cs := s.toList
  match cs.length with
  | 32 => ofDigits? cs
  | 36 => ofGroups? cs
  | 38 =>
    if cs.head? = some '\x7b' ∧ cs.getLast? = some '\x7d' then ofGroups? (cs.drop 1).dropLast
    else none
  | 45 => if "urn:uuid:".toList.isPrefixOf cs then ofGroups? (cs.drop 9) else none
  | _ => none

def ofJson : Json → Shape.Checked Uuid
  | .text s =>
    match ofForm? s with
    | some u => .ok u
    | none => Shape.fail .uuidParsing
  | _ => Shape.fail .uuidType

/-! ## Forgiving reading -/

inductive Fault where
  | badlyFormed
  | badNumeral (digits : String)
  deriving DecidableEq, Repr

def Fault.message : Fault → String
  | .badlyFormed => "badly formed hexadecimal UUID string"
  | .badNumeral digits => "invalid literal for int() with base 16: " ++ Quoted.numeral digits

/-- Removes every occurrence of a word, from the left; `n` bounds the steps. -/
def without (word : List Char) : (n : Nat) → List Char → List Char
  | 0, cs => cs
  | _, [] => []
  | n + 1, c :: rest =>
    if word.isPrefixOf (c :: rest) then without word n ((c :: rest).drop word.length)
    else c :: without word n rest

def isBrace (c : Char) : Bool := c == '\x7b' || c == '\x7d'

/-- The 32 characters that are left when marks, braces at the ends and hyphens are taken away. They
may be any numeral of base 16. -/
def read (s : String) : Except Fault Uuid :=
  let cs := s.toList
  let cs := without "urn:".toList cs.length cs
  let cs := without "uuid:".toList cs.length cs
  let cs := (Blank.stripBy isBrace cs).filter (· != '-')
  if cs.length ≠ 32 then .error .badlyFormed
  else
    match Numeral.integer 16 (String.ofList cs) with
    | .ok n => .ok ⟨BitVec.ofInt 128 n⟩
    | .error _ => .error (.badNumeral (String.ofList cs))

end Uuid

end Gatehouse
