import Gatehouse.Proofs.Json.Number
import Gatehouse.Slug
import Mathlib.Data.List.Chain
import Mathlib.Data.List.TakeWhile

/-!
# The form of slugs

Every slug that a name can get, plain or counted, consists of words of lower-case letters and digits
with single hyphens between them, and fits into its column.
-/

namespace Gatehouse.Slug

def isWordChar (c : Char) : Bool := ('a' ≤ c && c ≤ 'z') || ('0' ≤ c && c ≤ '9')

/-- Words of letters and digits, and one hyphen between each two of them. -/
inductive IsForm : List Char → Prop
  | last {c : Char} : isWordChar c = true → IsForm [c]
  | letter {c : Char} {cs : List Char} : isWordChar c = true → IsForm cs → IsForm (c :: cs)
  | hyphen {c : Char} {cs : List Char} : isWordChar c = true → IsForm cs → IsForm (c :: '-' :: cs)

theorem isWordChar_of_allowed {c : Char} (h : isAllowed c = true) (hc : c ≠ '-') : isWordChar c = true := by
  simpa [isAllowed, isWordChar, hc] using h

/-! ## Texts without a hyphen too many -/

structure IsTidy (cs : List Char) : Prop where
  allowed : ∀ c ∈ cs, isAllowed c = true
  single : cs.IsChain fun a b => ¬ (a = '-' ∧ b = '-')
  head : cs.head? ≠ some '-'

theorem IsTidy.front {cs ds : List Char} (h : IsTidy cs) (hp : ds <+: cs) : IsTidy ds := by
  refine ⟨fun c hc => h.allowed c (hp.subset hc), h.single.prefix hp, ?_⟩
  obtain ⟨rest, rfl⟩ := hp
  cases ds with
  | nil => simp
  | cons d ds => exact h.head

theorem IsTidy.first {c : Char} {cs : List Char} (h : IsTidy (c :: cs)) : isWordChar c = true := by
  apply isWordChar_of_allowed (h.allowed c List.mem_cons_self)
  rintro rfl
  exact h.head rfl

theorem IsTidy.rest {c : Char} {cs : List Char} (h : IsTidy (c :: cs)) (hhead : cs.head? ≠ some '-') :
    IsTidy cs :=
  ⟨fun d hd => h.allowed d (List.mem_cons_of_mem _ hd), h.single.tail, hhead⟩

theorem IsTidy.after_hyphen {c : Char} {cs : List Char} (h : IsTidy (c :: '-' :: cs)) : IsTidy cs := by
  have hchain := (List.isChain_cons_cons.mp h.single).2
  refine ⟨fun d hd => h.allowed d (by simp [hd]), hchain.tail, ?_⟩
  cases cs with
  | nil => simp
  | cons d cs =>
    have hd := (List.isChain_cons_cons.mp hchain).1
    simpa using hd

theorem IsTidy.isForm : ∀ {cs : List Char}, IsTidy cs → cs.getLast? ≠ some '-' → cs ≠ [] → IsForm cs
  | [], _, _, hne => absurd rfl hne
  | [_], h, _, _ => .last h.first
  | c :: d :: cs, h, hlast, _ => by
    rw [List.getLast?_cons_cons] at hlast
    by_cases hd : d = '-'
    · subst hd
      -- the hyphen is not the last character, so another word begins behind it
      cases cs with
      | nil => exact absurd rfl hlast
      | cons e cs =>
        rw [List.getLast?_cons_cons] at hlast
        exact .hyphen h.first (h.after_hyphen.isForm hlast nofun)
    · exact .letter h.first ((h.rest (by simpa using hd)).isForm hlast nofun)

/-! ## From names -/

theorem mem_of_mem_squeeze {c : Char} (cs : List Char) : c ∈ squeeze cs → c ∈ cs := by
  fun_induction squeeze cs with
  | case1 rest ih =>
    intro h
    exact List.mem_cons_of_mem _ (ih h)
  | case2 d rest hd ih =>
    intro h
    rcases List.mem_cons.mp h with rfl | h
    · exact List.mem_cons_self
    · exact List.mem_cons_of_mem _ (ih h)
  | case3 => exact id

theorem head?_squeeze (cs : List Char) : (squeeze cs).head? = cs.head? := by
  fun_induction squeeze cs with
  | case1 rest ih => rw [ih]; rfl
  | case2 d rest hd ih => rfl
  | case3 => rfl

theorem isChain_squeeze (cs : List Char) : (squeeze cs).IsChain fun a b => ¬ (a = '-' ∧ b = '-') := by
  fun_induction squeeze cs with
  | case1 rest ih => exact ih
  | case2 d rest hd ih =>
    rw [List.isChain_cons]
    refine ⟨fun e he => ?_, ih⟩
    rw [head?_squeeze, Option.mem_def] at he
    rintro ⟨rfl, rfl⟩
    cases rest with
    | nil => cases he
    | cons e rest =>
      cases he
      exact hd rest rfl rfl
  | case3 => exact List.isChain_nil

theorem getLast?_trim (cs : List Char) : (cs.reverse.dropWhile isHyphen).reverse.getLast? ≠ some '-' := by
  rw [List.getLast?_reverse]
  intro h
  have hdrop := List.head?_dropWhile_not isHyphen cs.reverse
  rw [h] at hdrop
  simp [isHyphen] at hdrop

theorem trim_front (cs : List Char) : (cs.reverse.dropWhile isHyphen).reverse <+: cs := by
  rw [← List.reverse_suffix, List.reverse_reverse]
  exact List.dropWhile_suffix _

theorem isForm_fallback : IsForm fallback.toList :=
  .letter rfl (.letter rfl (.letter rfl (.letter rfl (.letter rfl (.letter rfl (.letter rfl
    (.letter rfl (.last rfl))))))))

/-- Without the hyphens at its end a tidy text is a slug, unless nothing is left. -/
theorem isForm_orFallback {cs : List Char} (h : IsTidy cs) :
    IsForm (orFallback (cs.reverse.dropWhile isHyphen).reverse).toList := by
  unfold orFallback
  split
  · exact isForm_fallback
  · rename_i hne
    rw [String.toList_ofList]
    apply (h.front (trim_front cs)).isForm (getLast?_trim cs)
    simpa using hne

theorem isForm_stripped {cs : List Char} (h : ∀ c ∈ cs, isAllowed c = true) :
    IsForm (orFallback (Blank.stripBy isHyphen (squeeze cs))).toList := by
  apply isForm_orFallback
  have hsuffix := List.dropWhile_suffix (l := squeeze cs) isHyphen
  refine ⟨fun c hc => h c (mem_of_mem_squeeze _ (hsuffix.subset hc)), (isChain_squeeze _).suffix hsuffix,
    fun hhead => ?_⟩
  have hdrop := List.head?_dropWhile_not isHyphen (squeeze cs)
  rw [hhead] at hdrop
  simp [isHyphen] at hdrop

theorem isForm_ofName (name : String) : IsForm (ofName name).toList :=
  isForm_stripped fun _ hc => (List.mem_filter.mp hc).2

/-! ## Cut to size -/

theorem ne_hyphen {c : Char} (h : isWordChar c = true) : c ≠ '-' := by
  rintro rfl
  cases h

theorem IsForm.tidy {cs : List Char} (h : IsForm cs) : IsTidy cs := by
  have hallowed : ∀ c, isWordChar c = true → isAllowed c = true := by
    intro c hc
    rw [isWordChar] at hc
    rw [isAllowed, hc, Bool.true_or]
  induction h with
  | last hc =>
    refine ⟨by simpa using hallowed _ hc, List.isChain_singleton _, ?_⟩
    simpa using ne_hyphen hc
  | letter hc hcs ih =>
    refine ⟨?_, List.isChain_cons.mpr ⟨fun _ _ h => ne_hyphen hc h.1, ih.single⟩, ?_⟩
    · simpa using ⟨hallowed _ hc, ih.allowed⟩
    · simpa using ne_hyphen hc
  | hyphen hc hcs ih =>
    refine ⟨?_, List.isChain_cons_cons.mpr ⟨fun h => ne_hyphen hc h.1, List.isChain_cons.mpr
      ⟨fun d hd h => ih.head (by rw [Option.mem_def.mp hd, h.2]), ih.single⟩⟩, ?_⟩
    · simpa using ⟨hallowed _ hc, by decide, ih.allowed⟩
    · simpa using ne_hyphen hc

theorem cut_front (room : Int) (cs : List Char) : cut room cs <+: cs := by
  unfold cut
  split <;> exact List.take_prefix _ _

theorem isForm_base (name : String) (largest : Int) : IsForm (base name largest).toList := by
  unfold base
  simp only
  split
  · exact isForm_orFallback ((isForm_ofName name).tidy.front (cut_front _ _))
  · exact isForm_ofName name

theorem IsForm.first {cs : List Char} (h : IsForm cs) : ∃ c rest, cs = c :: rest ∧ isWordChar c = true := by
  cases h with
  | last hc => exact ⟨_, _, rfl, hc⟩
  | letter hc _ => exact ⟨_, _, rfl, hc⟩
  | hyphen hc _ => exact ⟨_, _, rfl, hc⟩

theorem trim_ne_nil {c : Char} (h : isWordChar c = true) (cs : List Char) :
    ((c :: cs).reverse.dropWhile isHyphen).reverse ≠ [] := by
  rw [Ne, List.reverse_eq_nil_iff, List.dropWhile_eq_nil_iff]
  intro hall
  have hc := hall c (by simp)
  exact ne_hyphen h (by simpa [isHyphen] using hc)

/-- A hyphen and the largest suffix still fit, unless they leave no room at all. -/
theorem length_base (name : String) {largest : Nat} (h : (toString largest).length ≤ 98) :
    (base name largest).length + (1 + (toString largest).length) ≤ maxLength := by
  have hroom : ∃ n : Nat, (maxLength : Int) - (1 + (toString (largest : Int)).length) = n + 1 := by
    refine ⟨98 - (toString largest).length, ?_⟩
    rw [show toString (largest : Int) = toString largest from rfl, maxLength]
    omega
  obtain ⟨n, hn⟩ := hroom
  have hwidth : n + 1 + (1 + (toString largest).length) = maxLength := by
    rw [show toString (largest : Int) = toString largest from rfl] at hn
    omega
  obtain ⟨c, rest, hslug, hc⟩ := (isForm_ofName name).first
  have hcut : cut (n + 1) (ofName name).toList = c :: rest.take n := by
    rw [cut, if_neg (by omega), hslug]
    rfl
  unfold base
  simp only [hn, hcut]
  split
  · -- the first character is no hyphen, so something is left
    have hne := trim_ne_nil hc (rest.take n)
    rw [orFallback, if_neg (by simpa using hne), String.length_ofList]
    have hlength := (trim_front (c :: rest.take n)).length_le
    rw [List.length_cons] at hlength
    have htake := List.length_take_le n rest
    omega
  · omega

/-! ## Counted slugs -/

theorem IsForm.join {cs ds : List Char} (hc : IsForm cs) (hd : IsForm ds) : IsForm (cs ++ '-' :: ds) := by
  induction hc with
  | last h => exact .hyphen h hd
  | letter h _ ih => exact .letter h ih
  | hyphen h _ ih => exact .hyphen h ih

theorem isForm_of_word {cs : List Char} (h : ∀ c ∈ cs, isWordChar c = true) (hne : cs ≠ []) : IsForm cs := by
  induction cs with
  | nil => exact absurd rfl hne
  | cons c cs ih =>
    have hfirst := h c List.mem_cons_self
    cases cs with
    | nil => exact .last hfirst
    | cons d cs => exact .letter hfirst (ih (fun c hc => h c (List.mem_cons_of_mem _ hc)) nofun)

theorem isForm_digits (i : Nat) : IsForm (toString i).toList := by
  rw [Nat.toString_eq_ofList_toDigits, String.toList_ofList]
  apply isForm_of_word _ Nat.toDigits_ne_nil
  intro c hc
  have hdigit := Json.isDigit_of_mem_digits hc
  rw [isWordChar, Bool.or_eq_true]
  exact .inr hdigit

theorem isForm_candidate {base : String} (h : IsForm base.toList) (i : Nat) :
    IsForm (candidate base i).toList := by
  unfold candidate
  split
  · exact h
  · have hjoin := h.join (isForm_digits i)
    simpa [String.toList_append] using hjoin

theorem length_digits_mono {i n : Nat} (h : i ≤ n) : (toString i).length ≤ (toString n).length := by
  simp only [Nat.toString_eq_ofList_toDigits, String.length_ofList]
  have hpos : 0 < (Nat.toDigits 10 n).length := List.length_pos_iff.mpr Nat.toDigits_ne_nil
  rw [Nat.length_toDigits_le_iff (by decide) hpos]
  exact lt_of_le_of_lt h ((Nat.length_toDigits_le_iff (by decide) hpos).mp le_rfl)

theorem length_candidate {base : String} {largest : Nat}
    (h : base.length + (1 + (toString largest).length) ≤ maxLength) {i : Nat} (hi : i ≤ largest) :
    (candidate base i).length ≤ maxLength := by
  have hdigits := length_digits_mono hi
  unfold candidate
  split
  · omega
  · rw [String.length_append, String.length_append]
    show base.length + 1 + (toString i).length ≤ maxLength
    omega

/-- The number of a candidate can be read off it. -/
theorem candidate_injective {base : String} {i j : Nat} (h : candidate base i = candidate base j) : i = j := by
  have hlist := congrArg String.toList h
  by_cases hi : i = 0
  · by_cases hj : j = 0
    · rw [hi, hj]
    · simp [candidate, hi, hj] at hlist
  · by_cases hj : j = 0
    · simp [candidate, hi, hj] at hlist
    · simp only [candidate, hi, hj, if_false, String.toList_append] at hlist
      have hdigits := congrArg (Nat.ofDigitChars 10 · 0) (List.append_cancel_left hlist)
      simpa [Nat.toString_eq_ofList_toDigits] using hdigits

end Gatehouse.Slug
