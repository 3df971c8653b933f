import Gatehouse.Crypto.Aes

/-!
# Galois counter mode

Authenticated encryption with nonces of 12 bytes and tags of 16. What opens is exactly what sealing
the plaintext under the same nonce gives.
-/

namespace Gatehouse.Gcm

/-! ## Authentication -/

/-- The product in the field of 128-bit polynomials, where the highest bit is the constant term; `n`
bits of `y` are still to go. -/
def mulLoop : (n : Nat) → (x y product : BitVec 128) → BitVec 128
  | 0, _, _, product => product
  | n + 1, x, y, product =>
    let product := if y.getLsbD n then product ^^^ x else product
    let x := if x.getLsbD 0 then (x >>> 1) ^^^ ((0xE1 : BitVec 128) <<< 120) else x >>> 1
    mulLoop n x y product

def mul (x y : BitVec 128) : BitVec 128 := mulLoop 128 x y 0

/-- Blocks of sixteen bytes, the last one filled up with zeros; `n` bounds their number. -/
def blocks : (n : Nat) → List UInt8 → List (BitVec 128)
  | 0, _ => []
  | n + 1, bytes =>
    if bytes.isEmpty then []
    else
      let block := bytes.take 16
      Aes.ofBytes (block ++ List.replicate (16 - block.length) 0) :: blocks n (bytes.drop 16)

/-- The digest of a ciphertext and its length under the hash key `h`. -/
def hash (h : BitVec 128) (ciphertext : List UInt8) : BitVec 128 :=
  let sum := (blocks ciphertext.length ciphertext).foldl (fun sum block => mul (sum ^^^ block) h) 0
  mul (sum ^^^ BitVec.ofNat 128 (8 * ciphertext.length)) h

/-! ## Counter mode -/

def counter (nonce : List UInt8) (i : Nat) : BitVec 128 :=
  (Aes.ofBytes nonce <<< 32) ||| BitVec.ofNat 128 (i % 0x100000000)

/-- At least `n` bytes of key stream. -/
def keyStream (cipher : BitVec 128 → BitVec 128) (nonce : List UInt8) (n : Nat) : List UInt8 :=
  (List.range ((n + 15) / 16)).flatMap fun i => Aes.toBytes (cipher (counter nonce (i + 2)))

def crypt (cipher : BitVec 128 → BitVec 128) (nonce bytes : List UInt8) : List UInt8 :=
  Aes.xor bytes (keyStream cipher nonce bytes.length)

def tag (cipher : BitVec 128 → BitVec 128) (nonce ciphertext : List UInt8) : List UInt8 :=
  Aes.toBytes (hash (cipher 0) ciphertext ^^^ cipher (counter nonce 1))

/-! ## Sealing and opening -/

def sealBytes (cipher : BitVec 128 → BitVec 128) (nonce plaintext : List UInt8) : List UInt8 :=
  let ciphertext := crypt cipher nonce plaintext
  ciphertext ++ tag cipher nonce ciphertext

def openBytes (cipher : BitVec 128 → BitVec 128) (nonce sealed : List UInt8) :
    Option (List UInt8) :=
  let size := sealed.length - 16
  let ciphertext := sealed.take size
  if 16 ≤ sealed.length ∧ sealed.drop size = tag cipher nonce ciphertext then
    some (crypt cipher nonce ciphertext)
  else none

end Gatehouse.Gcm
