import Gatehouse.Calendar.Rfc3339
import Gatehouse.Proofs.Json.Number
import Mathlib.Algebra.Group.Nat.Defs

/-!
# Stamps read back

A stamp that exists and whose offset is in whole minutes is read back from the text that is written for
it, and every instant has such a stamp.
-/

namespace Gatehouse.Stamp

/-! ## Digits of fixed width -/

theorem length_digits : ∀ width n : Nat, (digits width n).length = width
  | 0, _ => rfl
  | width + 1, n => by simp [digits, length_digits width]

theorem toNat_digit (n : Nat) : (Char.ofNat (48 + n % 10)).toNat = 48 + n % 10 := by
  have hdigit : ∀ d < 10, (Char.ofNat (48 + d)).toNat = 48 + d := by decide
  exact hdigit (n % 10) (Nat.mod_lt n (by decide))

theorem isDigit_of_mem {c : Char} : ∀ {width n : Nat}, c ∈ digits width n → Json.isDigit c = true
  | 0, _, h => by cases h
  | width + 1, n, h => by
    rcases List.mem_append.mp h with h | h
    · exact isDigit_of_mem h
    · rw [List.mem_singleton.mp h, Json.isDigit_iff, toNat_digit]
      omega

theorem digitsValue_digits : ∀ width n : Nat, Json.digitsValue (digits width n) = n % 10 ^ width
  | 0, n => by simp [digits, Json.digitsValue, Nat.mod_one]
  | width + 1, n => by
    have hinit := digitsValue_digits width (n / 10)
    have hsplit : n % 10 ^ (width + 1) = n % 10 + 10 * (n / 10 % 10 ^ width) := by
      rw [Nat.pow_succ', Nat.mod_mul]
    unfold Json.digitsValue at hinit ⊢
    rw [digits, List.foldl_append, hinit, hsplit]
    simp only [List.foldl_cons, List.foldl_nil, toNat_digit]
    omega

theorem number?_digits {width n : Nat} (h : n < 10 ^ width) (rest : List Char) :
    number? width (digits width n ++ rest) = some (n, rest) := by
  have hall : (digits width n).all Json.isDigit = true := List.all_eq_true.mpr fun c hc => isDigit_of_mem hc
  simp [number?, List.take_left' (length_digits width n), List.drop_left' (length_digits width n), hall,
    length_digits, digitsValue_digits, Nat.mod_eq_of_lt h]

/-! ## Fractions and offsets -/

def IsWhole (offset : Option Int) : Prop := ∀ o ∈ offset, o % 60 = 0 ∧ o.natAbs < 86400

theorem isWhole_zero : IsWhole (some 0) := by
  intro o ho
  cases ho
  decide

theorem microsOf_digits {n : Nat} (h : n < 1000000) : microsOf (digits 6 n) = n := by
  have hlength := length_digits 6 n
  rw [microsOf, hlength]
  simp [List.take_of_length_le, hlength, digitsValue_digits]
  omega

/-- An offset begins with no digit, and with nothing that begins a fraction. -/
theorem zoneText_start {offset : Option Int} {c : Char} {rest : List Char}
    (h : zoneText ['Z'] offset = c :: rest) : Json.isDigit c = false ∧ ¬ (c = '.' ∨ c = ',') := by
  unfold zoneText at h
  split at h
  · cases h
  · split at h
    · cases h
      decide
    · rename_i o ho
      by_cases hneg : o < 0
      · simp only [hneg, if_true, List.cons_append] at h
        cases h
        decide
      · simp only [hneg, if_false, List.cons_append] at h
        cases h
        decide

theorem zonePart?_zoneText {offset : Option Int} (h : IsWhole offset) :
    Rfc3339.zonePart? (zoneText ['Z'] offset) = some offset := by
  cases offset with
  | none => rfl
  | some o =>
    obtain ⟨hminutes, hsize⟩ := h o rfl
    by_cases hzero : o = 0
    · subst hzero
      rfl
    · obtain ⟨hours, hhours⟩ : ∃ n, o.natAbs / 60 / 60 = n := ⟨_, rfl⟩
      obtain ⟨minutes, hminutes'⟩ : ∃ n, o.natAbs / 60 % 60 = n := ⟨_, rfl⟩
      have hsum : o.natAbs = (hours * 60 + minutes) * 60 := by omega
      have hhour : hours < 10 ^ 2 := by omega
      have hminute : minutes < 60 := by omega
      have hlast := number?_digits (show minutes < 10 ^ 2 by omega) []
      rw [List.append_nil] at hlast
      simp only [zoneText, hzero, if_false, hhours, hminutes']
      clear hhours hminutes'
      by_cases hneg : o < 0
      · have ho : -((hours * 60 + minutes) * 60 : Int) = o := by omega
        simp [hneg, Rfc3339.zonePart?, number?_digits hhour, hlast, hminute, ho]
        omega
      · have ho : ((hours * 60 + minutes) * 60 : Int) = o := by omega
        simp [hneg, Rfc3339.zonePart?, number?_digits hhour, hlast, hminute, ho]
        omega

/-- Whatever offset is read is one that hours and minutes write. -/
theorem isWhole_of_zonePart? {cs : List Char} {offset : Option Int} (h : Rfc3339.zonePart? cs = some offset) :
    IsWhole offset := by
  unfold Rfc3339.zonePart? at h
  split at h
  · cases h
    rintro o ⟨⟩
  · split at h
    · split at h
      · cases h
        exact isWhole_zero
      · cases h
    · split at h
      · simp only [bind, Option.bind_eq_some_iff, Prod.exists] at h
        obtain ⟨hours, _, -, minutes, rest, -, hread⟩ := h
        split at hread
        · cases hread
        · rename_i hfits
          simp only [Bool.or_eq_true, decide_eq_true_eq, not_or] at hfits
          cases hread
          rintro o ⟨⟩
          split <;> omega
      · cases h

/-! ## Stamps -/

theorem secondsPart?_written {second micro : Nat} (hs : second < 10 ^ 2) (hm : micro < 1000000)
    (offset : Option Int) :
    Rfc3339.secondsPart? (':' :: (digits 2 second ++
      ((if micro = 0 then [] else '.' :: digits 6 micro) ++ zoneText ['Z'] offset))) =
      some (second, micro, zoneText ['Z'] offset) := by
  simp only [Rfc3339.secondsPart?, number?_digits hs, bind, Option.bind]
  by_cases hzero : micro = 0
  · simp only [hzero, if_true, List.nil_append]
    cases hzone : zoneText ['Z'] offset with
    | nil => rfl
    | cons c rest => simp [(zoneText_start hzone).2]
  · have htake : (digits 6 micro ++ zoneText ['Z'] offset).takeWhile Json.isDigit = digits 6 micro := by
      rw [List.takeWhile_append_of_pos fun c hc => isDigit_of_mem hc]
      cases hzone : zoneText ['Z'] offset with
      | nil => simp
      | cons c rest => simp [(zoneText_start hzone).1]
    have hsome : digits 6 micro ≠ [] := List.ne_nil_of_length_pos (by simp [length_digits])
    simp [hzero, htake, hsome, microsOf_digits hm, List.drop_left']

theorem daysIn_bounds (year month : Nat) : 28 ≤ daysIn year month ∧ daysIn year month ≤ 31 := by
  unfold daysIn
  split
  · split <;> decide
  · split <;> decide

/-- A stamp of a day that exists is read back from its text. -/
theorem read?_chars {s : Stamp} (h : s.isWritten = true) (hoffset : IsWhole s.offset) :
    Rfc3339.read? (chars ['Z'] s) = some s := by
  have hwritten := h
  simp only [isWritten, Bool.and_eq_true, decide_eq_true_eq] at h
  have hdays := daysIn_bounds s.year s.month
  have hyear : s.year < 10 ^ 4 := by omega
  have hmonth : s.month < 10 ^ 2 := by omega
  have hday : s.day < 10 ^ 2 := by omega
  have hhour : s.hour < 10 ^ 2 := by omega
  have hminute : s.minute < 10 ^ 2 := by omega
  have hsecond : s.second < 10 ^ 2 := by omega
  have hmicro : s.micro < 1000000 := by omega
  have hseconds := secondsPart?_written hsecond hmicro s.offset
  simp [chars, Rfc3339.read?, number?_digits hyear, number?_digits hmonth, number?_digits hday,
    number?_digits hhour, number?_digits hminute, expect, Rfc3339.isSeparator, hseconds,
    zonePart?_zoneText hoffset, hwritten]

/-- Whatever stamp is read is of a day and a time that exist, and its offset can be written. -/
theorem isWritten_of_read? {cs : List Char} {s : Stamp} (h : Rfc3339.read? cs = some s) :
    s.isWritten = true ∧ IsWhole s.offset := by
  simp only [Rfc3339.read?, bind, Option.bind_eq_some_iff, Prod.exists] at h
  obtain ⟨year, _, -, _, -, month, _, -, _, -, day, rest, -, hrest⟩ := h
  have hmade : ∃ made : Stamp, IsWhole made.offset ∧ (if made.isWritten then some made else none) = some s := by
    split at hrest
    · exact ⟨⟨year, month, day, 0, 0, 0, 0, none⟩, nofun, hrest⟩
    · simp only [Option.bind_eq_some_iff, Prod.exists] at hrest
      obtain ⟨_, -, hour, _, -, _, -, minute, _, -, second, micro, _, -, offset, hzone, made, hmade, hrest⟩ := hrest
      cases hmade
      exact ⟨_, isWhole_of_zonePart? hzone, hrest⟩
  obtain ⟨made, hwhole, hchecked⟩ := hmade
  split at hchecked
  · rename_i hwritten
    cases hchecked
    exact ⟨hwritten, hwhole⟩
  · cases hchecked

/-- Every day has a date of the calendar. -/
theorem civil_bounds (n : Int) : 1 ≤ (civil n).1 ∧ (civil n).1 ≤ 9999 ∧ 1 ≤ (civil n).2.1 ∧
    (civil n).2.1 ≤ 12 ∧ 1 ≤ (civil n).2.2 ∧ (civil n).2.2 ≤ daysIn (civil n).1 (civil n).2.1 := by
  unfold civil
  extract_lets m cycle inCycle year inYear shifted day month year' lastYear lastMonth
  have hdays := daysIn_bounds lastYear lastMonth
  refine ⟨?_, ?_, ?_, ?_, ?_, ?_⟩ <;> simp only [lastYear, lastMonth] at hdays ⊢ <;> omega

theorem isValid_ofInstant (t : Instant) : (ofInstant t).isValid = true := by
  have hbounds := civil_bounds (t.wholeSeconds.fdiv 86400)
  unfold ofInstant
  rcases hdate : civil (t.wholeSeconds.fdiv 86400) with ⟨year, month, day⟩
  rw [hdate] at hbounds
  simp only [isValid, isWritten, hdate, Bool.and_eq_true, decide_eq_true_eq] at hbounds ⊢
  omega

end Gatehouse.Stamp
