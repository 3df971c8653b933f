import Gatehouse.Codec.BigEndian
import Gatehouse.Crypto.Blowfish

/-!
# Bcrypt

The costly password digest. A key enters only through its 18 schedule words, which repeat the key
bytes cyclically, and 23 bytes of the final ciphertext come out.
-/

namespace Gatehouse.Bcrypt

open Blowfish

/-- Byte `i` of the endless repetition of `key`. -/
def cyclicByte (key : List UInt8) (i : Nat) : UInt8 :=
  key.getD (i % key.length) 0

/-- The first 72 bytes of the endless repetition of `key`, as words. -/
def keyWords (key : List UInt8) : KeyWords :=
  Vector.ofFn fun i =>
    UInt32.ofNat (BigEndian.number ((List.range' (4 * i.val) 4).map (cyclicByte key)))

/-- The text that is enciphered, "OrpheanBeholderScryDoubt", as three blocks. -/
def magic : List UInt64 :=
  [0x4F72706865616E42, 0x65686F6C64657253, 0x637279446F756274]

/-- The 23-byte digest under a key schedule, a 16-byte salt and `2^cost` passes. -/
def digest (key : KeyWords) (salt : List UInt8) (cost : Nat) : List UInt8 :=
  let saltWords := keyWords salt
  let even := halves saltWords[0] saltWords[1]
  let odd := halves saltWords[2] saltWords[3]
  let boxes := expandTimes key saltWords (Nat.pow 2 cost) (expand key even odd initialBoxes)
  ((magic.map (encipherTimes boxes 64)).flatMap fun x => BigEndian.bytes 8 x.toNat).take 23

end Gatehouse.Bcrypt
