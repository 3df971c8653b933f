import Gatehouse.Crypto.Sha2

/-!
# HMAC

Keyed hashes over the variants of SHA-2.
-/

namespace Gatehouse.Hmac

open Sha2 (Variant)

/-- The key as one block: hashed first if it is longer, then filled up with zeros. -/
def keyBlock (v : Variant) (key : List UInt8) : List UInt8 :=
  let key := if v.blockBytes < key.length then Sha2.digest v key else key
  key ++ List.replicate (v.blockBytes - key.length) 0

def mac (v : Variant) (key message : List UInt8) : List UInt8 :=
  let block := keyBlock v key
  let inner := Sha2.digest v (block.map (· ^^^ 0x36) ++ message)
  Sha2.digest v (block.map (· ^^^ 0x5C) ++ inner)

end Gatehouse.Hmac
