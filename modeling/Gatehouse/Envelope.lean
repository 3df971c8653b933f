import Gatehouse.Codec.Base64
import Gatehouse.Crypto.Gcm
import Gatehouse.Text.Utf8

/-!
# Token envelopes

A token sealed for its own cookie: nonce, ciphertext and tag in one text. What opens is the seal of
what it opens to.
-/

namespace Gatehouse.Envelope

inductive Fault where
  | keyLength (bytes : Nat)
  | undecodable
  | tooShort
  | unauthentic
  | notText
  deriving DecidableEq, Repr

/-- A key as it is given: its bytes, or a text that stands for its bytes. -/
inductive Key where
  | bytes (raw : List UInt8)
  | text (s : String)
  deriving DecidableEq, Repr

def Key.raw : Key → List UInt8
  | .bytes raw => raw
  | .text s => Utf8.encode s

def keySize : Nat := 32

def nonceSize : Nat := 12

/-- The bytes of a usable key. -/
def checkKey (key : Key) : Except Fault (List UInt8) :=
  if key.raw.length = keySize then .ok key.raw else .error (.keyLength key.raw.length)

def wrap (key : Key) (nonce : List UInt8) (token : String) : Except Fault String := do
  let raw ← checkKey key
  let cipher := Aes.encipher (Aes.roundKeys raw)
  .ok (Base64.encodePadded (nonce ++ Gcm.sealBytes cipher nonce (Utf8.encode token)))

/-- The bytes of a sealed text, which is ASCII. -/
def decode? (sealed : String) : Option (List UInt8) :=
  if sealed.toList.all (·.toNat < 128) then Base64.decode (Utf8.encode sealed) else none

/-- Opens a sealed text. A wrong key is reported whatever the text is. -/
def unwrap (key : Key) (sealed : String) : Except Fault String := do
  let raw ← checkKey key
  match decode? sealed with
  | none => .error .undecodable
  | some bytes =>
    if bytes.length < nonceSize then .error .tooShort
    else
      let cipher := Aes.encipher (Aes.roundKeys raw)
      match Gcm.openBytes cipher (bytes.take nonceSize) (bytes.drop nonceSize) with
      | none => .error .unauthentic
      | some plaintext =>
        match Utf8.decode plaintext with
        | none => .error .notText
        | some token => .ok token

def countedNonce (n : Nat) : List UInt8 := BigEndian.bytes nonceSize n

def Fault.message : Fault → String
  | .keyLength bytes => "encryption key must be exactly 32 bytes, got " ++ toString bytes
  | .undecodable => "failed to decode encrypted token"
  | .tooShort => "ciphertext too short"
  | .unauthentic => "failed to decrypt token"
  | .notText => "sealed bytes are not a text"

end Gatehouse.Envelope
