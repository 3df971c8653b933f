import Gatehouse.Proofs.Codec.Base64
import Gatehouse.Proofs.Json.RoundTrip
import Gatehouse.Token.Segments

/-!
# Segments of a joined token

A text put together from three Base64 parts is taken apart into the same three, since no Base64 digit
is a dot.
-/

namespace Gatehouse.Token

/-! ## Dots -/

theorem splitLast_none : ∀ {bytes : List UInt8}, dot ∉ bytes → splitLast bytes = none
  | [], _ => rfl
  | b :: rest, h => by
    rw [List.mem_cons, not_or] at h
    rw [splitLast, splitLast_none h.2]
    exact if_neg (Ne.symm h.1)

theorem splitLast_append {after : List UInt8} (h : dot ∉ after) :
    ∀ before : List UInt8, splitLast (before ++ dot :: after) = some (before, after)
  | [] => by
    rw [List.nil_append, splitLast, splitLast_none h]
    rfl
  | b :: before => by
    rw [List.cons_append, splitLast, splitLast_append h before]

theorem splitFirst_append (after : List UInt8) :
    ∀ {before : List UInt8}, dot ∉ before → splitFirst (before ++ dot :: after) = some (before, after)
  | [], _ => rfl
  | b :: before, h => by
    rw [List.mem_cons, not_or] at h
    rw [List.cons_append, splitFirst, if_neg (Ne.symm h.1), splitFirst_append after h.2]
    rfl

theorem dot_not_mem_encode {s : String} (h : '.' ∉ s.toList) : dot ∉ Utf8.encode s := by
  intro hdot
  obtain ⟨c, hc, hcode⟩ := Utf8.exists_of_mem_encode (by decide) hdot
  have hchar : c = '.' := Char.toNat_inj.mp hcode
  exact h (hchar ▸ hc)

theorem encode_joined (s t : String) : Utf8.encode (s ++ "." ++ t) = Utf8.encode s ++ dot :: Utf8.encode t := by
  have hdot : Utf8.encode "." = [dot] := by decide
  rw [Utf8.encode_append, Utf8.encode_append, hdot, List.append_assoc]
  rfl

/-! ## Objects -/

theorem object?_written {style : Json.Style} (hs : style.IsLawful) {fields : List (String × Json)}
    (h : Json.IsPlain Json.lenient Json.lenient.depth (.object fields)) :
    object? (Utf8.encode ((Json.object fields).write style)) = .ok fields := by
  have hread := Json.read_write hs rfl h
  rw [object?, Utf8.decode_encode]
  simp only [hread]
  rfl

/-! ## Segments -/

/-- Behind the last dot any text may stand: whether there are segments is up to this text alone. -/
theorem segments?_joined {header : List UInt8} {fields : List (String × Json)}
    (h : object? header = .ok fields) (payload : List UInt8) {last : String} (hlast : dot ∉ Utf8.encode last) :
    segments? (Base64.encodeBare header ++ "." ++ Base64.encodeBare payload ++ "." ++ last) =
      (Base64.decodeBare (Utf8.encode last)).map fun signature =>
        ⟨Utf8.encode (Base64.encodeBare header ++ "." ++ Base64.encodeBare payload), fields, payload,
          signature⟩ := by
  have hsplit := splitLast_append hlast
    (Utf8.encode (Base64.encodeBare header ++ "." ++ Base64.encodeBare payload))
  have hfirst := splitFirst_append (Utf8.encode (Base64.encodeBare payload))
    (dot_not_mem_encode (Base64.dot_not_mem_encodeBare header))
  rw [segments?, encode_joined (Base64.encodeBare header ++ "." ++ Base64.encodeBare payload), hsplit]
  rw [encode_joined (Base64.encodeBare header)] at *
  simp only [hfirst, Base64.decodeBare_encodeBare, bind, Option.bind, h, Except.toOption]
  cases Base64.decodeBare (Utf8.encode last) <;> rfl

end Gatehouse.Token
