import Gatehouse.Json.Reader
import Gatehouse.Json.Writer

/-!
# Written integers read back

The digits of a natural number have no leading zero, so the reader takes them all, and what stands
behind a value cannot prolong them.
-/

namespace Gatehouse.Json

/-- What may stand behind a value: nothing, or a character that ends or continues its container. -/
def IsEnd (rest : List Char) : Prop := ∀ c ∈ rest.head?, c = ',' ∨ c = ']' ∨ c = '\x7d'

theorem isEnd_nil : IsEnd [] := by simp [IsEnd]

theorem isEnd_cons {c : Char} (h : c = ',' ∨ c = ']' ∨ c = '\x7d') (rest : List Char) :
    IsEnd (c :: rest) := by
  intro x hx
  cases hx
  exact h

/-! ## Digits -/

theorem isDigit_iff (c : Char) : isDigit c = true ↔ 48 ≤ c.toNat ∧ c.toNat ≤ 57 := by
  simp only [isDigit, Bool.and_eq_true, decide_eq_true_eq]
  exact Iff.rfl

theorem isDigit_of_mem_digits {c : Char} {n : Nat} (h : c ∈ Nat.toDigits 10 n) : isDigit c = true := by
  have hc := Nat.isDigit_of_mem_toDigits (by decide) (by decide) h
  rw [Char.isDigit_iff_toNat] at hc
  exact (isDigit_iff c).mpr hc

theorem digitsValue_digits (n : Nat) : digitsValue (Nat.toDigits 10 n) = n := by
  have h : ∀ (cs : List Char) (a : Nat),
      cs.foldl (fun n c => n * 10 + (c.toNat - 48)) a = Nat.ofDigitChars 10 cs a := by
    intro cs
    induction cs with
    | nil => simp
    | cons c cs ih => intro a; rw [List.foldl_cons, ih, Nat.ofDigitChars_cons, Nat.mul_comm]; rfl
  rw [digitsValue, h, Nat.ofDigitChars_ten_toDigits]

theorem head_digits_ne_zero {n : Nat} (hn : 0 < n) : (Nat.toDigits 10 n).head? ≠ some '0' := by
  -- the first digit of a number from ten on is the first digit of its tenth part
  induction n using Nat.strongRecOn with
  | _ n ih =>
    rw [Nat.toDigits_eq_if (by decide)]
    split
    · rename_i h
      have : ∀ k < 10, 0 < k → [Nat.digitChar k].head? ≠ some '0' := by decide
      exact this n h hn
    · rename_i h
      have hrec := ih (n / 10) (by omega) (by omega)
      cases hd : Nat.toDigits 10 (n / 10) with
      | nil => exact absurd hd Nat.toDigits_ne_nil
      | cons c cs => rwa [hd] at hrec

/-! ## Numbers -/

section
variable {rest : List Char} (hr : IsEnd rest)
include hr

theorem takeWhile_end : rest.takeWhile isDigit = [] := by
  cases rest with
  | nil => rfl
  | cons c rest =>
    rcases hr c rfl with rfl | rfl | rfl <;> rfl

theorem wholePart_digits (n : Nat) : wholePart (Nat.toDigits 10 n ++ rest) = Nat.toDigits 10 n := by
  cases n with
  | zero => rfl
  | succ n =>
    have hhead := head_digits_ne_zero (Nat.succ_pos n)
    have hall : (Nat.toDigits 10 (n + 1) ++ rest).takeWhile isDigit = Nat.toDigits 10 (n + 1) := by
      rw [List.takeWhile_append_of_pos fun c hc => isDigit_of_mem_digits hc, takeWhile_end hr,
        List.append_nil]
    cases hd : Nat.toDigits 10 (n + 1) with
    | nil => exact absurd hd Nat.toDigits_ne_nil
    | cons c cs =>
      rw [hd] at hhead hall
      rw [wholePart.eq_def]
      split
      · rename_i h; cases h; exact absurd rfl hhead
      · exact hall

theorem fraction_end : fraction rest = [] := by
  cases rest with
  | nil => rfl
  | cons c rest => rcases hr c rfl with rfl | rfl | rfl <;> rfl

theorem exponent_end : exponent rest = none := by
  cases rest with
  | nil => rfl
  | cons c rest => rcases hr c rfl with rfl | rfl | rfl <;> rfl

theorem readNumber_digits {d : Dialect} (hd : d.numerals = false) (negative : Bool) {n : Nat}
    (hn : (Nat.toDigits 10 n).length < d.digits) :
    readNumber d negative (Nat.toDigits 10 n ++ rest) =
      .ok (integer (if negative then -n else n), rest) := by
  have hne : (Nat.toDigits 10 n).isEmpty = false := by
    rw [List.isEmpty_eq_false_iff]
    exact Nat.toDigits_ne_nil
  have hlimit : (d.limitsAll && decide (d.digits < (if negative then ['-'] else []).length +
      (Nat.toDigits 10 n).length)) = false := by
    have : ¬ d.digits < (if negative then ['-'] else []).length + (Nat.toDigits 10 n).length := by
      cases negative <;> simp <;> omega
    simp [this]
  have hlen : ¬ d.digits < (Nat.toDigits 10 n).length := by omega
  unfold readNumber
  simp only [wholePart_digits hr, List.drop_left, fraction_end hr, List.isEmpty_nil, if_true,
    List.length_nil, List.drop_zero, exponent_end hr, hne, hlimit, hd, Option.isNone_none,
    Bool.and_self, hlen, digitsValue_digits, Bool.false_eq_true, if_false]

end

end Gatehouse.Json
