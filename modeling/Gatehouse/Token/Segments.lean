import Gatehouse.Codec.Base64
import Gatehouse.Json.Reader
import Gatehouse.Text.Utf8

/-!
# Token segments

The three parts of a token and how they are taken apart: the signature stands behind the last dot
and the header before the first.
-/

namespace Gatehouse.Token

def dot : UInt8 := 46

/-- What stands before the last dot and what behind it. -/
def splitLast : List UInt8 → Option (List UInt8 × List UInt8)
  | [] => none
  | b :: rest =>
    match splitLast rest with
    | some (before, after) => some (b :: before, after)
    | none => if b = dot then some ([], rest) else none

/-- What stands before the first dot and what behind it. -/
def splitFirst : List UInt8 → Option (List UInt8 × List UInt8)
  | [] => none
  | b :: rest =>
    if b = dot then some ([], rest)
    else (splitFirst rest).map fun (before, after) => (b :: before, after)

structure Segments where
  /-- Everything before the last dot: what the signature is about. -/
  signed : List UInt8
  header : List (String × Json)
  payload : List UInt8
  signature : List UInt8

/-- The fields of a JSON object in UTF-8. -/
def object? (bytes : List UInt8) : Except Json.ReadFault (List (String × Json)) :=
  match Utf8.decode bytes with
  | none => .error .malformed
  | some s =>
    match Json.read Json.lenient s with
    | .ok v =>
      match v.fields? with
      | some fields => .ok fields
      | none => .error .malformed
    | .error e => .error e

def segments? (token : String) : Option Segments := do
  let (signed, signature) ← splitLast (Utf8.encode token)
  let (header, payload) ← splitFirst signed
  let header ← (Base64.decodeBare header).bind fun bytes => (object? bytes).toOption
  let payload ← Base64.decodeBare payload
  let signature ← Base64.decodeBare signature
  some ⟨signed, header, payload, signature⟩

end Gatehouse.Token
