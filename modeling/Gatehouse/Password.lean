import Gatehouse.Codec.Base64
import Gatehouse.Crypto.Bcrypt
import Gatehouse.Refusal
import Gatehouse.Text.Raw

/-!
# Passwords

Which passwords are good enough, and how they are stored. A stored hash is a text that carries its
own cost and salt, and checking a password means computing that text once more.
-/

namespace Gatehouse.Password

/-! ## Strength -/

def isUpper (c : Char) : Bool := 'A' ≤ c && c ≤ 'Z'

def isLower (c : Char) : Bool := 'a' ≤ c && c ≤ 'z'

def isDigit (c : Char) : Bool := '0' ≤ c && c ≤ '9'

/-- The printing ASCII characters that are neither letters nor digits. -/
def isSpecial (c : Char) : Bool :=
  33 ≤ c.toNat && c.toNat ≤ 126 && !isUpper c && !isLower c && !isDigit c

/-- The first rule a password breaks. A lone surrogate counts as a character of no class. -/
def weakness (password : RawText) : Option Refusal :=
  let cs := password.chars '\uFFFD'
  if cs.length < 6 then some .passwordTooShort
  else if 128 < cs.length then some .passwordTooLong
  else if !cs.any isUpper then some .passwordNoUpper
  else if !cs.any isLower then some .passwordNoLower
  else if !cs.any isDigit then some .passwordNoDigit
  else if !cs.any isSpecial then some .passwordNoSpecial
  else none

/-! ## Hash texts -/

def digit (v : Nat) : Char :=
  if v < 2 then Char.ofNat (46 + v)
  else if v < 28 then Char.ofNat (63 + v)
  else if v < 54 then Char.ofNat (69 + v)
  else Char.ofNat (v - 6)

def digit? (c : Char) : Option Nat :=
  let n := c.toNat
  if 46 ≤ n ∧ n ≤ 47 then some (n - 46)
  else if 65 ≤ n ∧ n ≤ 90 then some (n - 63)
  else if 97 ≤ n ∧ n ≤ 122 then some (n - 69)
  else if 48 ≤ n ∧ n ≤ 57 then some (n + 6)
  else none

def encode (bytes : List UInt8) : List Char := Base64.encode digit [] bytes

/-- What a hash text says besides the digest itself. -/
structure Recipe where
  variant : Char
  cost : Nat
  salt : List UInt8

/-- Only the first 72 bytes of a password count; a zero byte follows them. -/
def keyBytes (password : String) : List UInt8 :=
  (Utf8.encode password).take 72 ++ [0]

def cook (r : Recipe) (password : String) : List Char :=
  let key := Bcrypt.keyWords (keyBytes password)
  let tens := Char.ofNat (48 + r.cost / 10)
  let ones := Char.ofNat (48 + r.cost % 10)
  ['$', '2', r.variant, '$', tens, ones, '$'] ++ encode r.salt ++
    encode (Bcrypt.digest key r.salt r.cost)

/-- The letters under which a hash is computed in one and the same way. -/
def isVariant (c : Char) : Bool := c == 'a' || c == 'b' || c == 'x' || c == 'y'

/-- Reads variant, cost and salt. A hash text has 22 characters of salt and 31 of digest. -/
def recipe? : List Char → Option Recipe
  | '$' :: '2' :: variant :: '$' :: tens :: ones :: '$' :: body =>
    if !isVariant variant || !isDigit tens || !isDigit ones then none
    else
      let cost := (tens.toNat - 48) * 10 + (ones.toNat - 48)
      if cost < 4 || 31 < cost || body.length != 53 then none
      else
        ((body.take 22).mapM digit?).map fun digits => ⟨variant, cost, Base64.ofDigits digits⟩
  | _ => none

def cost : Nat := 10

def hash (salt : List UInt8) (password : String) : String :=
  String.ofList (cook ⟨'b', cost, salt⟩ password)

/-- Whether a hash text, garbled or not, is the one of this password. -/
def verify (password hashText : String) : Bool :=
  match recipe? hashText.toList with
  | none => false
  | some r => cook r password == hashText.toList

/-- The salt that the `n`-th hash uses: the last 21 decimal digits of `n` and a full stop. -/
def countedSalt (n : Nat) : List UInt8 :=
  let digits := (toString (n % 1000000000000000000000)).toList
  let chars := List.replicate (21 - digits.length) '0' ++ digits ++ ['.']
  Base64.ofDigits (chars.map fun c => (digit? c).getD 0)

end Gatehouse.Password
