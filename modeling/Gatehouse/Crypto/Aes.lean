import Gatehouse.Codec.BigEndian

/-!
# AES-256

The block cipher on 128-bit blocks under a key of 32 bytes. Its substitution is computed from the
field with 256 elements.
-/

namespace Gatehouse.Aes

/-! ## The field -/

/-- Multiplication by the generator. -/
def double (x : UInt8) : UInt8 :=
  if x &&& 0x80 = 0 then x <<< 1 else (x <<< 1) ^^^ 0x1B

/-- The product, one bit of `y` at a time; `n` counts the bits. -/
def mulLoop : (n : Nat) → UInt8 → UInt8 → UInt8
  | 0, _, _ => 0
  | n + 1, x, y => (if y &&& 1 = 0 then 0 else x) ^^^ mulLoop n (double x) (y >>> 1)

def mul (x y : UInt8) : UInt8 := mulLoop 8 x y

def power (x : UInt8) : Nat → UInt8
  | 0 => 1
  | n + 1 => mul x (power x n)

def rotate (x : UInt8) (n : UInt8) : UInt8 := (x <<< n) ||| (x >>> (8 - n))

/-- The inverse, then an affine map. -/
def substituteByte (x : UInt8) : UInt8 :=
  let y := power x 254
  y ^^^ rotate y 1 ^^^ rotate y 2 ^^^ rotate y 3 ^^^ rotate y 4 ^^^ 0x63

def table : Array UInt8 :=
  Array.ofFn fun i : Fin 256 => substituteByte (UInt8.ofNat i)

def substitute (x : UInt8) : UInt8 := table.getD x.toNat 0

/-! ## Blocks -/

def toBytes (x : BitVec 128) : List UInt8 :=
  BigEndian.bytes 16 x.toNat

def ofBytes (bytes : List UInt8) : BitVec 128 :=
  BitVec.ofNat 128 (BigEndian.number bytes)

def xor (xs ys : List UInt8) : List UInt8 :=
  List.zipWith (· ^^^ ·) xs ys

/-! ## Rounds -/

/-- Row `r` of the four columns moves left by `r` places. -/
def shiftRows (s : List UInt8) : List UInt8 :=
  (List.range 16).map fun i => s.getD ((i + 4 * (i % 4)) % 16) 0

def mixColumn (a b c d : UInt8) : List UInt8 :=
  let twice := double
  let thrice (x : UInt8) := double x ^^^ x
  [twice a ^^^ thrice b ^^^ c ^^^ d, a ^^^ twice b ^^^ thrice c ^^^ d,
    a ^^^ b ^^^ twice c ^^^ thrice d, thrice a ^^^ b ^^^ c ^^^ twice d]

def mixColumns : List UInt8 → List UInt8
  | a :: b :: c :: d :: rest => mixColumn a b c d ++ mixColumns rest
  | rest => rest

/-! ## Key schedule -/

/-- Word `i` from the word before and the word eight back. -/
def nextWord (i : Nat) (before back : List UInt8) : List UInt8 :=
  let turned :=
    if i % 8 = 0 then
      match before.map substitute with
      | a :: rest => rest.mapIdx (fun j b => if j = 0 then b ^^^ power 2 (i / 8 - 1) else b) ++ [a]
      | [] => []
    else if i % 8 = 4 then before.map substitute
    else before
  xor back turned

def extend : (n : Nat) → Array (List UInt8) → Array (List UInt8)
  | 0, ws => ws
  | n + 1, ws =>
    let i := ws.size
    extend n (ws.push (nextWord i (ws.getD (i - 1) []) (ws.getD (i - 8) [])))

/-- The fifteen round keys of a key of 32 bytes. -/
def roundKeys (key : List UInt8) : List (List UInt8) :=
  let first := (List.range 8).map fun i => (key.drop (4 * i)).take 4
  let words := (extend 52 first.toArray).toList
  (List.range 15).map fun i => ((words.drop (4 * i)).take 4).flatten

/-- One round for each key; the last one mixes no columns. -/
def rounds : List (List UInt8) → List UInt8 → List UInt8
  | [], s => s
  | [last], s => xor (shiftRows (s.map substitute)) last
  | key :: rest, s => rounds rest (xor (mixColumns (shiftRows (s.map substitute))) key)

def encipher (keys : List (List UInt8)) (x : BitVec 128) : BitVec 128 :=
  match keys with
  | [] => x
  | first :: rest => ofBytes (rounds rest (xor (toBytes x) first))

end Gatehouse.Aes
