import Gatehouse.Proofs.Slug
import Mathlib.Algebra.Group.Nat.Defs
import Mathlib.Data.List.Nodup
import Mathlib.Data.Nat.Find

/-!
# The search for a free slug

The candidates are tried by their numbers, each once, up to the first that is not taken. A check may
answer by what it was asked before, and it may fail.
-/

namespace Gatehouse.Slug

/-! ## Checks on record -/

def recorded (answer : List String → String → Option Bool) (slug : String) :
    StateM (List String) (Option Bool) := do
  let asked ← get
  set (asked ++ [slug])
  return answer asked slug

def tried (base : String) (n : Nat) : List String := (List.range n).map (candidate base)

/-- What the check says of a candidate if all before it were tried. -/
def verdict (answer : List String → String → Option Bool) (base : String) (i : Nat) : Option Bool :=
  answer (tried base i) (candidate base i)

def ending (slug : String) : Option Bool → Search
  | some _ => .found slug
  | none => .checkFailed

theorem tried_succ (base : String) (n : Nat) : tried base (n + 1) = tried base n ++ [candidate base n] := by
  simp [tried, List.range_succ]

theorem nodup_tried (base : String) (n : Nat) : (tried base n).Nodup :=
  List.nodup_range.map fun _ _ h => candidate_injective h

section
variable {answer : List String → String → Option Bool} {base : String}

theorem searchFrom_recorded (left i : Nat) :
    (searchFrom (recorded answer) base (left + 1) i).run (tried base i) =
      if verdict answer base i = some true then
        (searchFrom (recorded answer) base left (i + 1)).run (tried base (i + 1))
      else (ending (candidate base i) (verdict answer base i), tried base (i + 1)) := by
  have hrun : (recorded answer (candidate base i)).run (tried base i) =
      (verdict answer base i, tried base (i + 1)) := by
    rw [tried_succ]
    rfl
  rw [searchFrom, StateT.run_bind, hrun]
  cases verdict answer base i with
  | none => rfl
  | some taken => cases taken <;> rfl

theorem searchFrom_stops {k : Nat} (hstop : verdict answer base k ≠ some true) : ∀ {left i : Nat},
    i ≤ k → k < i + left → (∀ j, i ≤ j → j < k → verdict answer base j = some true) →
    (searchFrom (recorded answer) base left i).run (tried base i) =
      (ending (candidate base k) (verdict answer base k), tried base (k + 1))
  | 0, i, hi, hk, _ => by omega
  | left + 1, i, hi, hk, htaken => by
    rw [searchFrom_recorded]
    by_cases h : i = k
    · subst h
      rw [if_neg hstop]
    · rw [if_pos (htaken i le_rfl (by omega))]
      exact searchFrom_stops hstop (by omega) (by omega) fun j hj => htaken j (by omega)

theorem searchFrom_exhausted : ∀ {left i : Nat},
    (∀ j, i ≤ j → j < i + left → verdict answer base j = some true) →
    (searchFrom (recorded answer) base left i).run (tried base i) = (.exhausted, tried base (i + left))
  | 0, _, _ => rfl
  | left + 1, i, htaken => by
    rw [searchFrom_recorded, if_pos (htaken i le_rfl (by omega)),
      searchFrom_exhausted fun j hj hjk => htaken j (by omega) (by omega)]
    congr 2
    omega

end

/-! ## Searches -/

section
variable {answer : List String → String → Option Bool} {name : String} {largest : Nat}

theorem search_stops {k : Nat} (hk : k ≤ largest)
    (htaken : ∀ j < k, verdict answer (base name largest) j = some true)
    (hstop : verdict answer (base name largest) k ≠ some true) :
    (search (recorded answer) name largest).run [] =
      (ending (candidate (base name largest) k) (verdict answer (base name largest) k),
        tried (base name largest) (k + 1)) :=
  searchFrom_stops hstop (Nat.zero_le k) (by rw [Int.toNat_natCast]; omega) fun j _ hj => htaken j hj

theorem search_exhausted (htaken : ∀ k ≤ largest, verdict answer (base name largest) k = some true) :
    (search (recorded answer) name largest).run [] =
      (.exhausted, tried (base name largest) (largest + 1)) := by
  have hall : ∀ k, 0 ≤ k → k < 0 + (largest + 1) → verdict answer (base name largest) k = some true :=
    fun k _ hk => htaken k (by omega)
  have h := searchFrom_exhausted hall
  rw [Nat.zero_add] at h
  exact h

/-- Either a first candidate is not taken, or all of them are. -/
theorem first_or_all (answer : List String → String → Option Bool) (base : String) (largest : Nat) :
    (∃ k ≤ largest, (∀ j < k, verdict answer base j = some true) ∧ verdict answer base k ≠ some true) ∨
      ∀ k ≤ largest, verdict answer base k = some true := by
  by_cases h : ∃ k, k ≤ largest ∧ verdict answer base k ≠ some true
  · left
    refine ⟨Nat.find h, (Nat.find_spec h).1, fun j hj => ?_, (Nat.find_spec h).2⟩
    have hj' := Nat.find_min h hj
    by_contra htaken
    exact hj' ⟨(Nat.le_of_lt hj).trans (Nat.find_spec h).1, htaken⟩
  · right
    intro k hk
    by_contra htaken
    exact h ⟨k, hk, htaken⟩

end

/-- **The first free candidate.** The search asks for the candidates in the order of their numbers and ends
at the first that is not taken: with this slug if it is free, and without one if the check fails. All
candidates differ and fit the column, as long as the largest number leaves room for a character. -/
theorem search_first_free (answer : List String → String → Option Bool) (name : String) {largest : Nat}
    (hdigits : (toString largest).length ≤ 98) :
    let first := base name largest
    let run := (search (recorded answer) name largest).run []
    ((∃ k ≤ largest, (∀ j < k, verdict answer first j = some true) ∧ verdict answer first k = some false ∧
          run = (.found (candidate first k), tried first (k + 1))) ∨
        (∃ k ≤ largest, (∀ j < k, verdict answer first j = some true) ∧ verdict answer first k = none ∧
          run = (.checkFailed, tried first (k + 1))) ∨
        (∀ k ≤ largest, verdict answer first k = some true) ∧
          run = (.exhausted, tried first (largest + 1))) ∧
      ((∀ slug, run.1 ≠ .found slug) ↔
        (∃ k ≤ largest, (∀ j < k, verdict answer first j = some true) ∧ verdict answer first k = none) ∨
          ∀ k ≤ largest, verdict answer first k = some true) ∧
      (tried first (largest + 1)).Nodup ∧
      ∀ slug ∈ tried first (largest + 1), slug.length ≤ maxLength ∧ IsForm slug.toList := by
  intro first run
  refine ⟨?_, ⟨fun hnone => ?_, ?_⟩, nodup_tried first _, fun slug hslug => ?_⟩
  · rcases first_or_all answer first largest with ⟨k, hk, htaken, hstop⟩ | hall
    · have hrun := search_stops hk htaken hstop
      cases hv : verdict answer first k with
      | none =>
        rw [hv] at hrun
        exact .inr (.inl ⟨k, hk, htaken, hv, hrun⟩)
      | some taken =>
        cases taken with
        | true => exact absurd hv hstop
        | false =>
          rw [hv] at hrun
          exact .inl ⟨k, hk, htaken, hv, hrun⟩
    · exact .inr (.inr ⟨hall, search_exhausted hall⟩)
  · rcases first_or_all answer first largest with ⟨k, hk, htaken, hstop⟩ | hall
    · refine .inl ⟨k, hk, htaken, ?_⟩
      have hrun := search_stops hk htaken hstop
      cases hv : verdict answer first k with
      | none => rfl
      | some taken =>
        rw [hv] at hrun
        exact absurd (congrArg Prod.fst hrun) (hnone _)
    · exact .inr hall
  · rintro (⟨k, hk, htaken, hv⟩ | hall) slug
    · have hrun := search_stops hk htaken (by rw [hv]; nofun)
      rw [hv] at hrun
      rw [show run = _ from hrun]
      nofun
    · rw [show run = _ from search_exhausted hall]
      nofun
  · obtain ⟨k, hk, rfl⟩ := List.mem_map.mp hslug
    rw [List.mem_range] at hk
    exact ⟨length_candidate (length_base name hdigits) (by omega), isForm_candidate (isForm_base name _) k⟩

/-- With a largest number of 98 digits there is room for one letter, and here the second check fails. -/
theorem search_first_free_narrow :
    (toString (10 ^ 97)).length ≤ 98 ∧
      (search (recorded fun asked _ => if asked = [] then some true else none) "Team Rocket"
        (10 ^ 97 : Nat)).run [] = (.checkFailed, ["t", "t-1"]) := by
  have hdigits : (toString (10 ^ 97)).length ≤ 98 := by
    rw [Nat.toString_eq_ofList_toDigits, String.length_ofList, Nat.length_toDigits_le_iff (by decide) (by decide)]
    exact Nat.pow_lt_pow_right (by decide) (by decide)
  have hfirst : base "Team Rocket" (10 ^ 97 : Nat) = "t" := by decide +kernel
  refine ⟨hdigits, ?_⟩
  have h := (search_first_free (fun asked _ => if asked = [] then some true else none) "Team Rocket"
    hdigits).1
  rw [hfirst] at h
  have hlater : ∀ j, verdict (fun asked _ => if asked = [] then some true else none) "t" (j + 1) = none := by
    intro j
    simp [verdict, tried_succ]
  rcases h with ⟨k, -, -, hfree, -⟩ | ⟨k, -, htaken, hfails, hrun⟩ | ⟨hall, -⟩
  · cases k with
    | zero => cases hfree
    | succ k =>
      rw [hlater] at hfree
      cases hfree
  · rcases k with _ | _ | k
    · cases hfails
    · exact hrun
    · have hsecond := htaken 1 (by omega)
      rw [hlater] at hsecond
      cases hsecond
  · have hsecond := hall 1 (Nat.one_le_pow _ _ (by decide))
    rw [hlater] at hsecond
    cases hsecond

end Gatehouse.Slug
