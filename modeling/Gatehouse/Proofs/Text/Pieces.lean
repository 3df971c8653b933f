import Gatehouse.Text.Blank
import Gatehouse.Text.Split
import Mathlib.Data.List.Basic

/-!
# Pieces of texts

Pieces that were joined by a separator come apart again, and a text without blanks at its ends is not
changed by stripping it.
-/

namespace Gatehouse

namespace Split

variable {sep : Char}

theorem on_prepend {front rest first : List Char} {others : List (List Char)} (h : sep ∉ front)
    (hrest : on sep rest = first :: others) : on sep (front ++ rest) = (front ++ first) :: others := by
  induction front with
  | nil => exact hrest
  | cons c front ih =>
    rw [List.mem_cons, not_or] at h
    rw [List.cons_append, on, if_neg (Ne.symm h.1), ih h.2]
    rfl

theorem on_separated {piece : List Char} (h : sep ∉ piece) (rest : List Char) :
    on sep (piece ++ sep :: rest) = piece :: on sep rest := by
  have hrest : on sep (sep :: rest) = [] :: on sep rest := if_pos rfl
  rw [on_prepend h hrest, List.append_nil]

theorem on_eq_cons (cs : List Char) : ∃ first others, on sep cs = first :: others := by
  induction cs with
  | nil => exact ⟨[], [], rfl⟩
  | cons c rest ih =>
    obtain ⟨first, others, hrest⟩ := ih
    by_cases h : c = sep
    · exact ⟨[], on sep rest, by rw [on, if_pos h]⟩
    · exact ⟨c :: first, others, by rw [on, if_neg h, hrest]⟩

theorem on_append (front rest : List Char) : on sep (front ++ sep :: rest) = on sep front ++ on sep rest := by
  have hend : on sep [] = [[]] := rfl
  induction front with
  | nil => rw [List.nil_append, hend, on, if_pos rfl]; rfl
  | cons c front ih =>
    rw [List.cons_append, on, on, ih]
    by_cases h : c = sep
    · rw [if_pos h, if_pos h]
      rfl
    · obtain ⟨first, others, hfirst⟩ := @on_eq_cons sep front
      rw [if_neg h, if_neg h, hfirst]
      rfl

theorem intercalate_append {α : Type} (gap : List α) {front back : List (List α)} (hfront : front ≠ [])
    (hback : back ≠ []) :
    gap.intercalate (front ++ back) = gap.intercalate front ++ gap ++ gap.intercalate back := by
  obtain ⟨last, others, rfl⟩ := List.exists_cons_of_ne_nil hback
  induction front with
  | nil => exact absurd rfl hfront
  | cons first front ih =>
    cases front with
    | nil => rw [List.singleton_append, List.intercalate_cons_cons, List.intercalate_singleton]
    | cons second front =>
      have hrest := ih (List.cons_ne_nil second front)
      rw [List.cons_append] at hrest
      rw [List.cons_append, List.cons_append, List.intercalate_cons_cons, hrest, List.intercalate_cons_cons]
      simp only [List.append_assoc]

/-- Pieces that were joined come apart again, each behind the gap that follows the separator. -/
theorem on_intercalate {gap : List Char} (hgap : sep ∉ gap) (others : List (List Char)) :
    ∀ first, (∀ piece ∈ first :: others, sep ∉ piece) →
      on sep ((sep :: gap).intercalate (first :: others)) = first :: others.map (gap ++ ·) := by
  induction others with
  | nil =>
    intro first h
    have hend : on sep [] = [[]] := rfl
    have halone := on_prepend (h first List.mem_cons_self) hend
    rw [List.append_nil] at halone
    rw [List.intercalate_singleton, halone]
    rfl
  | cons second others ih =>
    intro first h
    have hsecond := ih second fun piece hpiece => h piece (List.mem_cons_of_mem _ hpiece)
    rw [List.intercalate_cons_cons, List.append_assoc, List.cons_append,
      on_separated (h first List.mem_cons_self), on_prepend hgap hsecond]
    rfl

end Split

namespace Blank

theorem stripBy_eq_self {p : Char → Bool} {cs : List Char} (hhead : ∀ c, cs.head? = some c → p c = false)
    (hlast : ∀ c, cs.getLast? = some c → p c = false) : stripBy p cs = cs := by
  have hfront : cs.dropWhile p = cs := by
    cases cs with
    | nil => rfl
    | cons c rest => rw [List.dropWhile_cons_of_neg]; simp [hhead c rfl]
  have hback : cs.reverse.dropWhile p = cs.reverse := by
    cases hcs : cs.reverse with
    | nil => rfl
    | cons c rest =>
      have hc : cs.getLast? = some c := by rw [List.getLast?_eq_head?_reverse, hcs]; rfl
      rw [List.dropWhile_cons_of_neg]
      simp [hlast c hc]
  rw [stripBy, hfront, hback, List.reverse_reverse]

end Blank

end Gatehouse
