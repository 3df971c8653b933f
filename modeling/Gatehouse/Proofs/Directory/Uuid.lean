import Gatehouse.Directory.Uuid
import Gatehouse.Proofs.Text.Pieces
import Mathlib.Algebra.Group.Nat.Defs
import Mathlib.Data.List.TakeWhile

/-!
# Texts of identifiers

The text of an identifier has 36 characters, all of them hexadecimal digits or hyphens. Two identifiers
with the same text are the same, and a text reads back as its identifier.
-/

namespace Gatehouse

namespace Quoted

/-! ## Hexadecimal digits -/

theorem hexDigit_injective : ∀ a < 16, ∀ b < 16, hexDigit a = hexDigit b → a = b := by decide

@[simp] theorem length_hex (width n : Nat) : (hex width n).length = width := by
  induction width generalizing n with
  | zero => rfl
  | succ width ih => simp [hex, ih]

theorem mem_hex {width n : Nat} {c : Char} (h : c ∈ hex width n) : ∃ k < 16, c = hexDigit k := by
  induction width generalizing n with
  | zero => simp [hex] at h
  | succ width ih =>
    rw [hex, List.mem_append, List.mem_singleton] at h
    rcases h with h | h
    · exact ih h
    · exact ⟨n % 16, Nat.mod_lt _ (by decide), h⟩

theorem hex_injective {width m n : Nat} (hm : m < 16 ^ width) (hn : n < 16 ^ width)
    (h : hex width m = hex width n) : m = n := by
  induction width generalizing m n with
  | zero => simp only [Nat.pow_zero, Nat.lt_one_iff] at hm hn; omega
  | succ width ih =>
    rw [Nat.pow_succ] at hm hn
    obtain ⟨hrest, hlast⟩ := List.append_inj' h rfl
    have hdiv : m / 16 = n / 16 := ih (by omega) (by omega) hrest
    have hmod : m % 16 = n % 16 := by
      apply hexDigit_injective _ (Nat.mod_lt _ (by decide)) _ (Nat.mod_lt _ (by decide))
      simpa using hlast
    omega

end Quoted

namespace Uuid

/-! ## Texts -/

theorem length_digits (u : Uuid) : u.digits.length = 32 := Quoted.length_hex 32 _

theorem hexDigit_ne_hyphen : ∀ k < 16, Quoted.hexDigit k ≠ '-' := by decide

theorem filter_digits {ds : List Char} {u : Uuid} (h : ds ⊆ u.digits) : ds.filter (· != '-') = ds := by
  rw [List.filter_eq_self]
  intro c hc
  obtain ⟨k, hk, rfl⟩ := Quoted.mem_hex (h hc)
  simpa using hexDigit_ne_hyphen k hk

theorem toList_text (u : Uuid) : u.text.toList = u.chars := String.toList_ofList

theorem length_text (u : Uuid) : u.text.toList.length = 36 := by
  rw [toList_text]
  simp [chars, length_digits]

theorem text_ne_empty (u : Uuid) : u.text ≠ "" := by
  intro hempty
  have hlength := u.length_text
  rw [hempty] at hlength
  cases hlength

/-- Without its hyphens the text has nothing but its digits. -/
theorem filter_chars (u : Uuid) : u.chars.filter (· != '-') = u.digits := by
  have hsub : ∀ (i n : Nat), ((u.digits.drop i).take n).filter (· != '-') = (u.digits.drop i).take n :=
    fun i n => filter_digits fun _ h => List.mem_of_mem_drop (List.mem_of_mem_take h)
  have htake : (u.digits.take 8).filter (· != '-') = u.digits.take 8 := hsub 0 8
  have hdrop : (u.digits.drop 20).filter (· != '-') = u.digits.drop 20 :=
    filter_digits fun _ h => List.mem_of_mem_drop h
  have hgroup : ∀ i n, (u.digits.drop i).take n ++ u.digits.drop (i + n) = u.digits.drop i := by
    intro i n
    rw [← List.drop_drop, List.take_append_drop]
  simp only [chars, List.filter_append, List.filter_cons, hsub, htake, hdrop]
  simp only [bne_self_eq_false, Bool.false_eq_true, if_false, List.append_assoc, hgroup 16 4, hgroup 12 4,
    hgroup 8 4, List.take_append_drop]

theorem text_injective {u v : Uuid} (h : u.text = v.text) : u = v := by
  have hchars : u.chars = v.chars := String.ofList_injective h
  have hdigits : u.digits = v.digits := by
    rw [← filter_chars u, ← filter_chars v, hchars]
  have hwidth : 2 ^ 128 = 16 ^ 32 := by decide
  have hbits : u.bits.toNat = v.bits.toNat := by
    have hu : u.bits.toNat < 16 ^ 32 := hwidth ▸ u.bits.isLt
    have hv : v.bits.toNat < 16 ^ 32 := hwidth ▸ v.bits.isLt
    exact Quoted.hex_injective hu hv hdigits
  cases u
  cases v
  simpa [BitVec.toNat_inj] using hbits

theorem mem_text {u : Uuid} {c : Char} (h : c ∈ u.text.toList) :
    c = '-' ∨ ∃ k < 16, c = Quoted.hexDigit k := by
  rw [toList_text] at h
  by_cases hc : c = '-'
  · exact .inl hc
  · right
    have hdigit : c ∈ u.digits := by
      rw [← filter_chars u, List.mem_filter]
      exact ⟨h, by simpa using hc⟩
    exact Quoted.mem_hex hdigit

end Uuid

/-! ## Numerals of hexadecimal digits -/

namespace Numeral

theorem isDigit_hexDigit : ∀ k < 16, isDigit 16 (Quoted.hexDigit k) = true := by decide

theorem value?_hexDigit : ∀ k < 16, Digit.value? (Quoted.hexDigit k) = some k := by decide

theorem fold_hex (width n : Nat) : fold 16 (Quoted.hex width n) = n % 16 ^ width := by
  induction width generalizing n with
  | zero => rw [Nat.pow_zero, Nat.mod_one]; rfl
  | succ width ih =>
    have hlast := value?_hexDigit (n % 16) (Nat.mod_lt _ (by decide))
    have hfront := ih (n / 16)
    rw [fold] at hfront
    rw [Quoted.hex, fold, List.foldl_append, hfront, List.foldl_cons, List.foldl_nil, hlast,
      Nat.pow_succ, Nat.mul_comm (16 ^ width), Nat.mod_mul]
    simp only [Option.getD_some]
    omega

/-- What distinguishes hexadecimal digits from all that a numeral may hold besides. -/
theorem hexDigit_bare : ∀ k < 16, plain (Quoted.hexDigit k) = Quoted.hexDigit k ∧
    isSpace (Quoted.hexDigit k) = false ∧ Quoted.hexDigit k ∉ ['-', '+', 'x', 'X', '_'] := by
  decide

theorem separated_digits {base : Nat} {cs : List Char} (h : ∀ c ∈ cs, isDigit base c = true ∧ c ≠ '_') :
    ∀ before, separated base before cs = true := by
  induction cs with
  | nil => exact fun _ => rfl
  | cons c rest ih =>
    intro before
    rw [separated.eq_4 _ _ _ _ (h c List.mem_cons_self).2]
    exact ih (fun d hd => h d (List.mem_cons_of_mem _ hd)) _

theorem splitSign_unsigned {cs : List Char} (h : ∀ c ∈ cs, c ≠ '-' ∧ c ≠ '+') : splitSign cs = (false, cs) := by
  apply splitSign.eq_3
  · rintro rest rfl
    exact (h '-' List.mem_cons_self).1 rfl
  · rintro rest rfl
    exact (h '+' List.mem_cons_self).2 rfl

theorem dropMark_unmarked (base : Nat) {cs : List Char} (h : ∀ c ∈ cs, c ≠ 'x' ∧ c ≠ 'X') :
    dropMark base cs = cs := by
  apply dropMark.eq_5
  all_goals
    rintro rest rfl
    simp at h

theorem integer_hex {width : Nat} (hwidth : width ≠ 0) (n : Nat) :
    integer 16 (String.ofList (Quoted.hex width n)) = .ok (n % 16 ^ width : Nat) := by
  have hbare : ∀ c ∈ Quoted.hex width n, isDigit 16 c = true ∧ plain c = c ∧ isSpace c = false ∧
      c ∉ ['-', '+', 'x', 'X', '_'] := by
    intro c hc
    obtain ⟨k, hk, rfl⟩ := Quoted.mem_hex hc
    exact ⟨isDigit_hexDigit k hk, hexDigit_bare k hk⟩
  have hmarks : ∀ c ∈ Quoted.hex width n, c ≠ '-' ∧ c ≠ '+' ∧ c ≠ 'x' ∧ c ≠ 'X' ∧ c ≠ '_' := by
    intro c hc
    simpa using (hbare c hc).2.2.2
  have hcore : core (String.ofList (Quoted.hex width n)) = Quoted.hex width n := by
    have hplain : (Quoted.hex width n).map plain = Quoted.hex width n := by
      rw [List.map_congr_left fun c hc => (hbare c hc).2.1, List.map_id']
    rw [core, String.toList_ofList, hplain]
    exact Blank.stripBy_eq_self (fun c hc => (hbare c (List.mem_of_head? hc)).2.2.1)
      fun c hc => (hbare c (List.mem_of_getLast? hc)).2.2.1
  have hrow : (Quoted.hex width n).takeWhile (fun c => isDigit 16 c || c == '_') = Quoted.hex width n :=
    List.takeWhile_eq_self_iff.mpr fun c hc => by rw [(hbare c hc).1, Bool.true_or]
  have hdigits : (Quoted.hex width n).filter (· != '_') = Quoted.hex width n :=
    List.filter_eq_self.mpr fun c hc => bne_iff_ne.mpr (hmarks c hc).2.2.2.2
  have hsome : (Quoted.hex width n).isEmpty = false := by
    rw [List.isEmpty_eq_false_iff, ne_eq, ← List.length_eq_zero_iff, Quoted.length_hex]
    exact hwidth
  have hseparated : separated 16 false (Quoted.hex width n) = true :=
    separated_digits (fun c hc => ⟨(hbare c hc).1, (hmarks c hc).2.2.2.2⟩) false
  unfold integer
  rw [hcore, splitSign_unsigned fun c hc => ⟨(hmarks c hc).1, (hmarks c hc).2.1⟩]
  simp only [dropMark_unmarked 16 fun c hc => ⟨(hmarks c hc).2.2.1, (hmarks c hc).2.2.2.1⟩, hrow, hdigits, hsome,
    hseparated, fold_hex]
  simp

end Numeral

namespace Uuid

/-! ## Reading -/

theorem without_absent {c : Char} {word cs : List Char} (h : c ∉ cs) (n : Nat) :
    without (c :: word) n cs = cs := by
  induction n generalizing cs with
  | zero => rfl
  | succ n ih =>
    cases cs with
    | nil => rfl
    | cons d rest =>
      rw [List.mem_cons, not_or] at h
      have hprefix : (c :: word).isPrefixOf (d :: rest) = false := by
        simp [List.isPrefixOf, h.1]
      rw [without, hprefix, ih h.2]
      rfl

/-- What is taken away on reading is not there, but for the hyphens. -/
theorem read_text (u : Uuid) : read u.text = .ok u := by
  have hother : ∀ c, c ≠ '-' → (∀ k < 16, c ≠ Quoted.hexDigit k) → c ∉ u.text.toList := by
    intro c hhyphen hdigit hc
    rcases mem_text hc with rfl | ⟨k, hk, rfl⟩
    · exact hhyphen rfl
    · exact hdigit k hk rfl
  have hu : 'u' ∉ u.text.toList := hother 'u' (by decide) (by decide)
  have hbrace : ∀ c ∈ u.text.toList, isBrace c = false := by
    intro c hc
    rw [isBrace, Bool.or_eq_false_iff, beq_eq_false_iff_ne, beq_eq_false_iff_ne]
    constructor
    · rintro rfl
      exact hother '\x7b' (by decide) (by decide) hc
    · rintro rfl
      exact hother '\x7d' (by decide) (by decide) hc
  have hurn : "urn:".toList = 'u' :: "rn:".toList := rfl
  have huuid : "uuid:".toList = 'u' :: "uid:".toList := rfl
  have hstrip : Blank.stripBy isBrace u.text.toList = u.text.toList :=
    Blank.stripBy_eq_self (fun c hc => hbrace c (List.mem_of_head? hc))
      fun c hc => hbrace c (List.mem_of_getLast? hc)
  have hinteger : Numeral.integer 16 (String.ofList u.digits) = .ok (u.bits.toNat : Int) := by
    have hwidth : 16 ^ 32 = 2 ^ 128 := by decide
    have h : Numeral.integer 16 (String.ofList u.digits) = .ok (u.bits.toNat % 16 ^ 32 : Nat) :=
      Numeral.integer_hex (by decide) u.bits.toNat
    rwa [hwidth, Nat.mod_eq_of_lt u.bits.isLt] at h
  unfold read
  simp only [hurn, huuid, without_absent hu, hstrip]
  rw [toList_text, filter_chars, length_digits]
  simp only [ne_eq, not_true_eq_false, if_false, hinteger]
  rw [BitVec.ofInt_natCast, BitVec.ofNat_toNat, BitVec.setWidth_eq]

end Uuid

end Gatehouse
