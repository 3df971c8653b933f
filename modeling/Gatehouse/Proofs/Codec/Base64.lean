import Gatehouse.Codec.Base64
import Gatehouse.Proofs.Text.Utf8

/-!
# Base64 reads what it wrote

Every group of three bytes comes back from its four digits, and so does the shorter group at the end,
with its padding or without.
-/

namespace Gatehouse.Base64

open Utf8 (byte)

/-! ## Digits -/

theorem digit?_digit : ∀ v < 64, digit? (byte (digit v)) = some v := by decide

theorem digit_ne_pad : ∀ v < 64, byte (digit v) ≠ 61 := by decide

theorem digit_ascii : ∀ v < 64, (digit v).toNat < 128 := by decide

theorem digit_ne_dot : ∀ v < 64, digit v ≠ '.' := by decide

def digitsOf : List UInt8 → List Nat
  | [] => []
  | [a] => [a.toNat / 4, a.toNat % 4 * 16]
  | [a, b] => [a.toNat / 4, a.toNat % 4 * 16 + b.toNat / 16, b.toNat % 16 * 4]
  | a :: b :: c :: rest =>
    a.toNat / 4 :: (a.toNat % 4 * 16 + b.toNat / 16) :: (b.toNat % 16 * 4 + c.toNat / 64) ::
      c.toNat % 64 :: digitsOf rest

theorem encode_eq_map (digit : Nat → Char) :
    ∀ bytes : List UInt8, encode digit [] bytes = (digitsOf bytes).map digit
  | [] => rfl
  | [_] => rfl
  | [_, _] => rfl
  | _ :: _ :: _ :: rest => by
    simp only [encode, digitsOf, List.map_cons, encode_eq_map digit rest, List.cons_append, List.nil_append]

theorem digitsOf_lt : ∀ bytes : List UInt8, ∀ v ∈ digitsOf bytes, v < 64
  | [] => by simp [digitsOf]
  | [a] => by
    have ha := a.toNat_lt
    simp only [digitsOf, List.forall_mem_cons]
    exact ⟨by omega, by omega, List.forall_mem_nil _⟩
  | [a, b] => by
    have ha := a.toNat_lt
    have hb := b.toNat_lt
    simp only [digitsOf, List.forall_mem_cons]
    exact ⟨by omega, by omega, by omega, List.forall_mem_nil _⟩
  | a :: b :: c :: rest => by
    have ha := a.toNat_lt
    have hb := b.toNat_lt
    have hc := c.toNat_lt
    simp only [digitsOf, List.forall_mem_cons]
    exact ⟨by omega, by omega, by omega, by omega, digitsOf_lt rest⟩

theorem length_digitsOf : ∀ bytes : List UInt8, (digitsOf bytes).length = (bytes.length * 4 + 2) / 3
  | [] => rfl
  | [_] => by simp [digitsOf]
  | [_, _] => by simp [digitsOf]
  | _ :: _ :: _ :: rest => by
    simp only [digitsOf, List.length_cons, length_digitsOf rest]
    omega

theorem joined {a : UInt8} {n : Nat} (h : n = a.toNat) : UInt8.ofNat n = a := by
  rw [h, UInt8.ofNat_toNat]

theorem ofDigits_digitsOf : ∀ bytes : List UInt8, ofDigits (digitsOf bytes) = bytes
  | [] => rfl
  | [a] => by
    have ha := a.toNat_lt
    rw [digitsOf, ofDigits, joined (a := a) (by omega)]
  | [a, b] => by
    have ha := a.toNat_lt
    have hb := b.toNat_lt
    rw [digitsOf, ofDigits, joined (a := a) (by omega), joined (a := b) (by omega)]
  | a :: b :: c :: rest => by
    have ha := a.toNat_lt
    have hb := b.toNat_lt
    have hc := c.toNat_lt
    rw [digitsOf, ofDigits, ofDigits_digitsOf rest, joined (a := a) (by omega), joined (a := b) (by omega),
      joined (a := c) (by omega)]

theorem exists_of_mem_encode {c : Char} {bytes : List UInt8} (h : c ∈ encode digit [] bytes) :
    ∃ v < 64, c = digit v := by
  rw [encode_eq_map] at h
  obtain ⟨v, hv, rfl⟩ := List.mem_map.mp h
  exact ⟨v, digitsOf_lt bytes v hv, rfl⟩

theorem toList_encodeBare (bytes : List UInt8) : (encodeBare bytes).toList = (digitsOf bytes).map digit := by
  rw [encodeBare, String.toList_ofList, encode_eq_map]

theorem dot_not_mem_digits {vs : List Nat} (h : ∀ v ∈ vs, v < 64) : '.' ∉ vs.map digit := by
  intro hdot
  obtain ⟨v, hv, hd⟩ := List.mem_map.mp hdot
  exact digit_ne_dot v (h v hv) hd

theorem dot_not_mem_encodeBare (bytes : List UInt8) : '.' ∉ (encodeBare bytes).toList := by
  rw [toList_encodeBare]
  exact dot_not_mem_digits (digitsOf_lt bytes)

/-! ## Groups -/

section
variable {v : Nat} (hv : v < 64) (held pads : Nat) (rest : List UInt8)
include hv

theorem decodeFrom_first : decodeFrom 0 held pads (byte (digit v) :: rest) = decodeFrom 1 v 0 rest := by
  rw [decodeFrom, if_neg (digit_ne_pad v hv), digit?_digit v hv]
  rfl

theorem decodeFrom_second : decodeFrom 1 held pads (byte (digit v) :: rest) =
    (decodeFrom 2 (v % 16) 0 rest).map (UInt8.ofNat (held * 4 + v / 16) :: ·) := by
  rw [decodeFrom, if_neg (digit_ne_pad v hv), digit?_digit v hv]
  rfl

theorem decodeFrom_third : decodeFrom 2 held pads (byte (digit v) :: rest) =
    (decodeFrom 3 (v % 4) 0 rest).map (UInt8.ofNat (held * 16 + v / 4) :: ·) := by
  rw [decodeFrom, if_neg (digit_ne_pad v hv), digit?_digit v hv]
  rfl

theorem decodeFrom_fourth : decodeFrom 3 held pads (byte (digit v) :: rest) =
    (decodeFrom 0 0 0 rest).map (UInt8.ofNat (held * 64 + v) :: ·) := by
  rw [decodeFrom, if_neg (digit_ne_pad v hv), digit?_digit v hv]
  rfl

end

def padding (length : Nat) : List UInt8 := List.replicate ((4 - length % 4) % 4) 61

/-- Digits are read in groups of four; a single one left over would fill no byte. -/
theorem decodeFrom_digits : ∀ {vs : List Nat}, (∀ v ∈ vs, v < 64) → vs.length % 4 ≠ 1 →
    decodeFrom 0 0 0 (vs.map (fun v => byte (digit v)) ++ padding vs.length) = some (ofDigits vs)
  | [], _, _ => rfl
  | [_], _, h => absurd rfl h
  | [a, b], hv, _ => by
    simp only [List.forall_mem_cons] at hv
    simp only [List.map_cons, List.cons_append]
    rw [decodeFrom_first hv.1, decodeFrom_second hv.2.1]
    rfl
  | [a, b, c], hv, _ => by
    simp only [List.forall_mem_cons] at hv
    simp only [List.map_cons, List.cons_append]
    rw [decodeFrom_first hv.1, decodeFrom_second hv.2.1, decodeFrom_third hv.2.2.1]
    rfl
  | a :: b :: c :: d :: rest, hv, h => by
    have hlength : (rest.length + 1 + 1 + 1 + 1) % 4 = rest.length % 4 := by omega
    simp only [List.forall_mem_cons] at hv
    obtain ⟨ha, hb, hc, hd, hrest⟩ := hv
    simp only [List.length_cons, hlength] at h
    simp only [List.map_cons, List.cons_append, List.length_cons, padding, hlength]
    rw [decodeFrom_first ha, decodeFrom_second hb, decodeFrom_third hc, decodeFrom_fourth hd,
      ← padding, decodeFrom_digits hrest h]
    rfl

theorem decodeBare_digits {vs : List Nat} (hv : ∀ v ∈ vs, v < 64) (h : vs.length % 4 ≠ 1) :
    decodeBare (Utf8.encode (String.ofList (vs.map digit))) = some (ofDigits vs) := by
  have hascii : ∀ c ∈ vs.map digit, c.toNat < 128 := by
    intro c hc
    obtain ⟨v, hmem, rfl⟩ := List.mem_map.mp hc
    exact digit_ascii v (hv v hmem)
  have hread := decodeFrom_digits hv h
  rw [Utf8.encode_ascii _ hascii, decodeBare, decode, List.map_map, List.length_map]
  exact hread

theorem length_digitsOf_mod (bytes : List UInt8) : (digitsOf bytes).length % 4 ≠ 1 := by
  rw [length_digitsOf]
  omega

theorem decodeBare_encodeBare (bytes : List UInt8) :
    decodeBare (Utf8.encode (encodeBare bytes)) = some bytes := by
  have h := decodeBare_digits (digitsOf_lt bytes) (length_digitsOf_mod bytes)
  rwa [← encode_eq_map, ofDigits_digitsOf] at h

/-! ## Padding -/

theorem encode_padded : ∀ bytes : List UInt8, encode digit ['='] bytes =
    encode digit [] bytes ++ List.replicate ((4 - (encode digit [] bytes).length % 4) % 4) '='
  | [] => rfl
  | [a] => rfl
  | [a, b] => rfl
  | a :: b :: c :: rest => by
    have hlen : ∀ n : Nat, (n + 1 + 1 + 1 + 1) % 4 = n % 4 := fun n => by omega
    simp only [encode, List.cons_append, List.nil_append, List.length_cons, hlen]
    rw [encode_padded rest]

theorem ascii_of_mem_encode {c : Char} {bytes : List UInt8} (h : c ∈ encode digit ['='] bytes) :
    c.toNat < 128 := by
  rw [encode_padded, List.mem_append] at h
  rcases h with h | h
  · obtain ⟨v, hv, rfl⟩ := exists_of_mem_encode h
    exact digit_ascii v hv
  · rw [(List.mem_replicate.mp h).2]
    decide

theorem decode_encodePadded (bytes : List UInt8) : decode (Utf8.encode (encodePadded bytes)) = some bytes := by
  have hread := decodeFrom_digits (digitsOf_lt bytes) (length_digitsOf_mod bytes)
  rw [encodePadded, Utf8.encode_ascii _ fun c hc => ascii_of_mem_encode hc, encode_padded, encode_eq_map,
    List.map_append, List.map_replicate, List.length_map, List.map_map, decode]
  rwa [ofDigits_digitsOf] at hread

theorem encodePadded_injective : Function.Injective encodePadded := by
  intro bytes other h
  have hbytes := decode_encodePadded bytes
  rw [h, decode_encodePadded] at hbytes
  exact (Option.some.inj hbytes).symm

/-! ## Digits that tell bytes apart -/

theorem eq_of_ofNat {m n : Nat} (hm : m < 256) (hn : n < 256) (h : UInt8.ofNat m = UInt8.ofNat n) : m = n := by
  have hvalue := congrArg UInt8.toNat h
  rw [UInt8.toNat_ofNat', UInt8.toNat_ofNat'] at hvalue
  omega

/-- Rows of digits with the same bytes differ in the last digit at most. -/
theorem dropLast_eq_of_ofDigits : ∀ {vs ws : List Nat}, (∀ v ∈ vs, v < 64) → (∀ w ∈ ws, w < 64) →
    vs.length = ws.length → ofDigits vs = ofDigits ws → vs.dropLast = ws.dropLast
  | [], [], _, _, _, _ => rfl
  | [_], [_], _, _, _, _ => rfl
  | [a, b], [a', b'], hv, hw, _, h => by
    simp only [List.forall_mem_cons] at hv hw
    simp only [ofDigits, List.cons.injEq] at h
    have hfirst := eq_of_ofNat (by omega) (by omega) h.1
    have ha : a = a' := by omega
    rw [ha]
    rfl
  | [a, b, c], [a', b', c'], hv, hw, _, h => by
    simp only [List.forall_mem_cons] at hv hw
    simp only [ofDigits, List.cons.injEq] at h
    have hfirst := eq_of_ofNat (by omega) (by omega) h.1
    have hsecond := eq_of_ofNat (by omega) (by omega) h.2.1
    have ha : a = a' := by omega
    have hb : b = b' := by omega
    rw [ha, hb]
    rfl
  | a :: b :: c :: d :: vs, a' :: b' :: c' :: d' :: ws, hv, hw, hlength, h => by
    simp only [List.forall_mem_cons] at hv hw
    simp only [ofDigits, List.cons.injEq] at h
    have hfirst := eq_of_ofNat (by omega) (by omega) h.1
    have hsecond := eq_of_ofNat (by omega) (by omega) h.2.1
    have hthird := eq_of_ofNat (by omega) (by omega) h.2.2.1
    have ha : a = a' := by omega
    have hb : b = b' := by omega
    have hc : c = c' := by omega
    have hd : d = d' := by omega
    have hrest := dropLast_eq_of_ofDigits hv.2.2.2.2 hw.2.2.2.2 (by simpa using hlength) h.2.2.2
    rw [ha, hb, hc, hd]
    cases vs with
    | nil =>
      cases ws with
      | nil => rfl
      | cons => cases hlength
    | cons v vs =>
      cases ws with
      | nil => cases hlength
      | cons w ws => simpa [List.dropLast] using hrest

theorem digits_set_lt {vs : List Nat} (hv : ∀ v ∈ vs, v < 64) {v : Nat} (hlt : v < 64) (i : Nat) :
    ∀ w ∈ vs.set i v, w < 64 := by
  intro w hw
  rcases List.mem_or_eq_of_mem_set hw with hmem | rfl
  · exact hv w hmem
  · exact hlt

/-- Another digit in any place but the last stands for other bytes. -/
theorem ofDigits_set_ne {vs : List Nat} (hv : ∀ v ∈ vs, v < 64) {i v : Nat} (hi : i + 1 < vs.length)
    (hlt : v < 64) (hother : vs[i]? ≠ some v) : ofDigits (vs.set i v) ≠ ofDigits vs := by
  intro h
  have hinit := dropLast_eq_of_ofDigits (digits_set_lt hv hlt i) hv (List.length_set ..) h
  have hplace := congrArg (·[i]?) hinit
  simp only [List.getElem?_dropLast, List.length_set, if_pos (Nat.lt_sub_of_add_lt hi),
    List.getElem?_set_self (Nat.lt_of_succ_lt hi)] at hplace
  exact hother hplace.symm

theorem decodeBare_set {bytes : List UInt8} {i v : Nat} (hi : i + 1 < (encodeBare bytes).toList.length)
    (hlt : v < 64) (hother : (encodeBare bytes).toList[i]? ≠ some (digit v)) :
    ∃ other, other ≠ bytes ∧
      decodeBare (Utf8.encode (String.ofList ((encodeBare bytes).toList.set i (digit v)))) = some other := by
  rw [toList_encodeBare] at hi hother ⊢
  have hdigit : (digitsOf bytes)[i]? ≠ some v := by
    intro h
    rw [List.getElem?_map, h] at hother
    exact hother rfl
  rw [List.length_map] at hi
  have hne := ofDigits_set_ne (digitsOf_lt bytes) hi hlt hdigit
  rw [ofDigits_digitsOf] at hne
  refine ⟨_, hne, ?_⟩
  rw [← List.map_set]
  refine decodeBare_digits (digits_set_lt (digitsOf_lt bytes) hlt i) ?_
  rw [List.length_set]
  exact length_digitsOf_mod bytes

/-! ## Lengths -/

theorem length_encodeBare (bytes : List UInt8) : (encodeBare bytes).length = (bytes.length * 4 + 2) / 3 := by
  rw [← String.length_toList, toList_encodeBare, List.length_map, length_digitsOf]

theorem length_encode (digit : Nat → Char) (bytes : List UInt8) :
    (encode digit [] bytes).length = (bytes.length * 4 + 2) / 3 := by
  rw [encode_eq_map, List.length_map, length_digitsOf]

theorem length_ofDigits : ∀ digits : List Nat, (ofDigits digits).length = digits.length * 3 / 4
  | [] => rfl
  | [_] => by simp [ofDigits]
  | [_, _] => by simp [ofDigits]
  | [_, _, _] => by simp [ofDigits]
  | _ :: _ :: _ :: _ :: rest => by
    simp only [ofDigits, List.length_cons, length_ofDigits rest]
    omega

theorem ascii_of_digit? {b : UInt8} (h : (digit? b).isSome) : b.toNat < 128 := by
  unfold digit? at h
  by_cases hb : b.toNat < 128
  · exact hb
  · simp only at h
    repeat rw [if_neg (by omega)] at h
    cases h

theorem length_decodeFrom : ∀ {place held pads : Nat} {bytes out : List UInt8},
    decodeFrom place held pads bytes = some out → out.length ≤ bytes.countP fun b => (digit? b).isSome
  | place, held, pads, [], out, h => by
    unfold decodeFrom at h
    split at h
    · cases h
      simp
    · cases h
  | place, held, pads, c :: rest, out, h => by
    unfold decodeFrom at h
    rw [List.countP_cons]
    split at h
    · split at h
      · have := length_decodeFrom h
        omega
      · split at h
        · cases h
          simp
        · have := length_decodeFrom h
          omega
    · split at h
      · have := length_decodeFrom h
        omega
      · rename_i v hv
        rw [hv]
        split at h
        · have := length_decodeFrom h
          omega
        all_goals
          obtain ⟨more, hmore, rfl⟩ := Option.map_eq_some_iff.mp h
          have := length_decodeFrom hmore
          simpa using this

/-- A text stands for no more bytes than it has characters. -/
theorem length_decodeBare {s : String} {bytes : List UInt8} (h : decodeBare (Utf8.encode s) = some bytes) :
    bytes.length ≤ s.length := by
  have hdigits := length_decodeFrom h
  rw [List.countP_append] at hdigits
  have hpad : (List.replicate ((4 - (Utf8.encode s).length % 4) % 4) (61 : UInt8)).countP
      (fun b => (digit? b).isSome) = 0 := by
    rw [List.countP_replicate]
    simp [digit?]
  have hascii : (Utf8.encode s).countP (fun b => (digit? b).isSome) ≤
      (Utf8.encode s).countP (·.toNat < 128) :=
    List.countP_mono_left fun b _ h => by simpa using ascii_of_digit? h
  have := Utf8.ascii_encode s
  omega

end Gatehouse.Base64
