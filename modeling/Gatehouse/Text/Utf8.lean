/-!
# UTF-8

A text and its bytes. Reading is strict, so it accepts exactly what writing produces.
-/

namespace Gatehouse.Utf8

def encode (s : String) : List UInt8 :=
  s.toUTF8.data.toList

def decode (bytes : List UInt8) : Option String :=
  String.fromUTF8? ⟨bytes.toArray⟩

theorem decode_encode (s : String) : decode (encode s) = some s := by
  simp [decode, encode, String.fromUTF8?, String.fromUTF8, s.isValidUTF8]

theorem encode_of_decode {bytes : List UInt8} {s : String} (h : decode bytes = some s) :
    encode s = bytes := by
  simp only [decode, String.fromUTF8?] at h
  split at h
  · cases h
    simp [encode, String.fromUTF8]
  · cases h

end Gatehouse.Utf8
