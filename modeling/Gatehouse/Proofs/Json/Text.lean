import Gatehouse.Json.Reader
import Gatehouse.Json.Writer

/-!
# Written texts read back

An escaped character gives one code, or two where it is written as a pair of surrogates. Joining the
pairs restores the characters, and no surrogate is left over to tear the text.
-/

namespace Gatehouse

namespace RawText

theorem isHigh_eq_false {n : Nat} (h : n < 0xD800 ∨ 0xDC00 ≤ n) : isHigh n = false := by
  simp only [isHigh, Bool.and_eq_false_iff, decide_eq_false_iff_not]
  omega

theorem isLow_eq_false {n : Nat} (h : n < 0xDC00 ∨ 0xE000 ≤ n) : isLow n = false := by
  simp only [isLow, Bool.and_eq_false_iff, decide_eq_false_iff_not]
  omega

theorem char_not_surrogate (c : Char) : isHigh c.toNat = false ∧ isLow c.toNat = false := by
  have h : c.toNat < 0xD800 ∨ (0xDFFF < c.toNat ∧ c.toNat < 0x110000) := c.valid
  exact ⟨isHigh_eq_false (by omega), isLow_eq_false (by omega)⟩

theorem join_cons {n : Nat} (h : isHigh n = false) (rest : List Nat) :
    join (n :: rest) = n :: join rest := by
  cases rest with
  | nil => rfl
  | cons m rest => simp [join, h]

theorem join_pair {high low : Nat} (hh : isHigh high = true) (hl : isLow low = true) (rest : List Nat) :
    join (high :: low :: rest) = (0x10000 + (high - 0xD800) * 1024 + (low - 0xDC00)) :: join rest := by
  simp [join, hh, hl]

theorem ofCodes_toNat (s : String) : ofCodes (s.toList.map Char.toNat) = whole s := by
  have hnone : ((s.toList.map Char.toNat).any fun n => isHigh n || isLow n) = false := by
    simp only [List.any_map, List.any_eq_false]
    intro c _
    simp [char_not_surrogate c]
  rw [ofCodes, hnone, List.map_map]
  have hid : Char.ofNat ∘ Char.toNat = id := funext Char.ofNat_toNat
  simp [hid]

end RawText

namespace Json

open RawText (isHigh isLow join)

/-! ## Escapes -/

theorem hexDigit?_hexDigit : ∀ k < 16, hexDigit? (Quoted.hexDigit k) = some k := by decide

theorem hex_four (n : Nat) : Quoted.hex 4 n = [Quoted.hexDigit (n / 16 / 16 / 16 % 16),
    Quoted.hexDigit (n / 16 / 16 % 16), Quoted.hexDigit (n / 16 % 16), Quoted.hexDigit (n % 16)] := rfl

theorem codes_unitEscape {n : Nat} (h : n < 0x10000) (rest : List Char) :
    codes (unitEscape n ++ rest) = (codes rest).map fun p => (n :: p.1, p.2) := by
  have hn : ((n / 16 / 16 / 16 % 16 * 16 + n / 16 / 16 % 16) * 16 + n / 16 % 16) * 16 + n % 16 = n := by
    omega
  rw [unitEscape, hex_four]
  simp only [List.cons_append, List.nil_append]
  rw [codes, unit?, hexDigit?_hexDigit _ (by omega), hexDigit?_hexDigit _ (by omega),
    hexDigit?_hexDigit _ (by omega), hexDigit?_hexDigit _ (by omega)]
  simp only [bind, Option.bind_some, hn]
  cases codes rest <;> rfl

theorem codes_raw {c : Char} (hq : c ≠ '"') (hb : c ≠ '\\') (hc : 32 ≤ c.toNat) (rest : List Char) :
    codes (c :: rest) = (codes rest).map fun p => (c.toNat :: p.1, p.2) := by
  rw [codes.eq_def]
  split
  · contradiction
  · rename_i h; cases h; contradiction
  · rename_i h; cases h; contradiction
  · rename_i h; cases h; contradiction
  · rename_i h
    cases h
    rw [if_neg (by omega)]
    cases codes rest <;> rfl

/-- What the reader takes for an escaped character: its code, or two surrogates in its place. -/
def unitsOf (ascii : Bool) (c : Char) : List Nat :=
  if ascii && 0x10000 ≤ c.toNat then
    [0xD800 + (c.toNat - 0x10000) / 1024, 0xDC00 + (c.toNat - 0x10000) % 1024]
  else [c.toNat]

theorem unitsOf_one (ascii : Bool) {c : Char} {n : Nat} (h : c.toNat = n) (hn : n < 0x10000) :
    unitsOf ascii c = [n] := by
  simp [unitsOf, h, Nat.not_le.mpr hn]

theorem codes_letterEscape (ascii : Bool) {c l : Char} {n : Nat} (h : c.toNat = n) (hn : n < 0x10000)
    (hl : l ≠ 'u') (he : escaped? l = some n) (rest : List Char) :
    codes (['\\', l] ++ rest) = (codes rest).map fun p => (unitsOf ascii c ++ p.1, p.2) := by
  rw [unitsOf_one ascii h hn, List.cons_append, List.cons_append, List.nil_append, codes.eq_def]
  split
  · contradiction
  · rename_i h; cases h
  · rename_i h; cases h; contradiction
  · rename_i h; cases h
    rw [he]
    simp only [bind, Option.bind_some]
    cases codes rest <;> rfl
  · rename_i h₃ h; cases h; exact (h₃ l rest rfl rfl).elim

theorem codes_escapeChar (ascii : Bool) (c : Char) (rest : List Char) :
    codes (escapeChar ascii c ++ rest) = (codes rest).map fun p => (unitsOf ascii c ++ p.1, p.2) := by
  have hv : c.toNat < 0x110000 := by
    have h : c.toNat < 0xD800 ∨ (0xDFFF < c.toNat ∧ c.toNat < 0x110000) := c.valid
    omega
  -- one case for each escape of a letter, then the units of four digits and the characters as they are
  unfold escapeChar
  simp only
  split
  · rename_i h; subst h; exact codes_letterEscape ascii (by rfl) (by omega) (by decide) rfl rest
  split
  · rename_i h; subst h; exact codes_letterEscape ascii (by rfl) (by omega) (by decide) rfl rest
  split
  · rename_i h; exact codes_letterEscape ascii h (by omega) (by decide) rfl rest
  split
  · rename_i h; exact codes_letterEscape ascii h (by omega) (by decide) rfl rest
  split
  · rename_i h; exact codes_letterEscape ascii h (by omega) (by decide) rfl rest
  split
  · rename_i h; exact codes_letterEscape ascii h (by omega) (by decide) rfl rest
  split
  · rename_i h; exact codes_letterEscape ascii h (by omega) (by decide) rfl rest
  split
  · rename_i h
    rw [codes_unitEscape (by omega), unitsOf_one ascii rfl (by omega)]
    rfl
  split
  · rename_i hq hb _ _ _ _ _ hlow h
    rw [List.cons_append, List.nil_append, codes_raw hq hb (by omega)]
    have hu : unitsOf ascii c = [c.toNat] := by
      cases ascii with
      | false => rfl
      | true => exact unitsOf_one true rfl (by simp at h; omega)
    rw [hu]
    rfl
  split
  · rename_i h
    rw [codes_unitEscape h, unitsOf_one ascii rfl h]
    rfl
  · rename_i h₁ h₂
    have hu : unitsOf ascii c =
        [0xD800 + (c.toNat - 0x10000) / 1024, 0xDC00 + (c.toNat - 0x10000) % 1024] := by
      cases ascii with
      | false => simp at h₁
      | true => simp [unitsOf, Nat.not_lt.mp h₂]
    rw [List.append_assoc, codes_unitEscape (by omega), codes_unitEscape (by omega), hu, Option.map_map]
    rfl

theorem codes_escaped (ascii : Bool) (rest : List Char) : ∀ cs : List Char,
    codes (cs.flatMap (escapeChar ascii) ++ '"' :: rest) = some (cs.flatMap (unitsOf ascii), rest)
  | [] => rfl
  | c :: cs => by
    rw [List.flatMap_cons, List.append_assoc, codes_escapeChar, codes_escaped ascii rest cs]
    rfl

/-! ## Joined surrogates -/

theorem join_units (ascii : Bool) (c : Char) (rest : List Nat) :
    join (unitsOf ascii c ++ rest) = c.toNat :: join rest := by
  have hv : c.toNat < 0xD800 ∨ (0xDFFF < c.toNat ∧ c.toNat < 0x110000) := c.valid
  by_cases h : (ascii && 0x10000 ≤ c.toNat) = true
  · rw [unitsOf, if_pos h]
    simp only [Bool.and_eq_true, decide_eq_true_eq] at h
    have hh : isHigh (0xD800 + (c.toNat - 0x10000) / 1024) = true := by
      simp only [isHigh, Bool.and_eq_true, decide_eq_true_eq]
      omega
    have hl : isLow (0xDC00 + (c.toNat - 0x10000) % 1024) = true := by
      simp only [isLow, Bool.and_eq_true, decide_eq_true_eq]
      omega
    have hjoined : 0x10000 + (0xD800 + (c.toNat - 0x10000) / 1024 - 0xD800) * 1024 +
        (0xDC00 + (c.toNat - 0x10000) % 1024 - 0xDC00) = c.toNat := by omega
    rw [List.cons_append, List.cons_append, List.nil_append, RawText.join_pair hh hl, hjoined]
  · rw [unitsOf, if_neg h, List.cons_append, List.nil_append,
      RawText.join_cons (RawText.char_not_surrogate c).1]

theorem join_flatMap_units (ascii : Bool) : ∀ cs : List Char,
    join (cs.flatMap (unitsOf ascii)) = cs.map Char.toNat
  | [] => rfl
  | c :: cs => by rw [List.flatMap_cons, join_units, join_flatMap_units ascii cs, List.map_cons]

theorem readText_written (d : Dialect) (ascii : Bool) (s : String) (rest : List Char) :
    readText d (s.toList.flatMap (escapeChar ascii) ++ '"' :: rest) = .ok (.whole s, rest) := by
  rw [readText, codes_escaped]
  simp only
  rw [join_flatMap_units, RawText.ofCodes_toNat]

end Json

end Gatehouse
