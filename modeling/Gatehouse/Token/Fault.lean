/-!
# Token faults

What can go wrong when a token is issued or examined. The first three are verdicts on the token; the
others say that a key or a claim has no usable form.
-/

namespace Gatehouse.Token

inductive Fault where
  | malformed
  | invalid
  | expired
  /-- A key that must not be used for keyed hashes. -/
  | keyRefused
  /-- A key set that holds no keys to go through. -/
  | keySetShape
  /-- A key object without a text for its bytes. -/
  | keyField
  /-- A torn text as a key. -/
  | keyText
  /-- Key bytes that are not in Base64. -/
  | keyEncoding
  /-- A time claim that is no number and no text. -/
  | claimShape
  /-- An infinite time claim. -/
  | claimInfinite
  /-- Claims nested too deep. -/
  | claimDepth
  /-- An expiry outside the calendar. -/
  | beyondCalendar
  /-- A secret that must not be used for signing. -/
  | secretRefused
  deriving DecidableEq, Repr

/-- Whether the fault is a verdict on the token itself. -/
def Fault.isVerdict : Fault → Bool
  | malformed | invalid | expired => true
  | _ => false

end Gatehouse.Token
