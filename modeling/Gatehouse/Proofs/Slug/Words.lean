import Gatehouse.Proofs.Slug

/-!
# Slugs as words

A slug repeats the words of a name in lower case, with one hyphen between each two. The words are found
by taking the name apart, without the rewriting by which the slug is made.
-/

namespace Gatehouse

/-! ## Lower case -/

namespace Lower

/-- The lower case of a text under any rule for the sigmas: `isFinal` is told what stands before a capital
sigma, the nearest first, and what stands behind it. -/
def full (isFinal : List Char → List Char → Bool) : (before : List Char) → List Char → List Char
  | _, [] => []
  | before, c :: behind =>
    (if c = 'Σ' ∧ isFinal before behind = true then ['ς'] else lower c) ++ full isFinal (c :: before) behind

end Lower

namespace Slug

theorem filter_full {p : Char → Bool} (hmedial : p 'σ' = false) (hfinal : p 'ς' = false)
    (isFinal : List Char → List Char → Bool) (cs : List Char) :
    ∀ before, (Lower.full isFinal before cs).filter p = (Lower.lowerText cs).filter p := by
  have hsigma : Lower.lower 'Σ' = ['σ'] := by decide
  induction cs with
  | nil => intro before; rfl
  | cons c cs ih =>
    intro before
    rw [Lower.full, Lower.lowerText, List.flatMap_cons, List.filter_append, List.filter_append, ih]
    congr 1
    by_cases h : c = 'Σ' ∧ isFinal before cs = true
    · rw [if_pos h, h.1, hsigma]
      simp [hmedial, hfinal]
    · rw [if_neg h]

/-- Slug characters are in lower case already. -/
theorem lower_allowed {c : Char} (h : isAllowed c = true) : Lower.lower c = [c] := by
  have hsmall : ∀ n < 128, isAllowed (Char.ofNat n) = true → Lower.lower (Char.ofNat n) = [Char.ofNat n] := by
    decide
  have hascii : c.toNat < 128 := by
    have hz : 'z'.toNat = 122 := rfl
    have h9 : '9'.toNat = 57 := rfl
    simp only [isAllowed, Bool.or_eq_true, Bool.and_eq_true, decide_eq_true_eq, beq_iff_eq,
      Char.le_def, UInt32.le_iff_toNat_le] at h
    rcases h with (⟨-, h⟩ | ⟨-, h⟩) | rfl
    · exact lt_of_le_of_lt h (by decide)
    · exact lt_of_le_of_lt h (by decide)
    · decide
  have hc := hsmall c.toNat hascii
  rw [Char.ofNat_toNat] at hc
  exact hc h

theorem lowerText_allowed {cs : List Char} (h : ∀ c ∈ cs, isAllowed c = true) : Lower.lowerText cs = cs := by
  induction cs with
  | nil => rfl
  | cons c cs ih =>
    have hc := lower_allowed (h c List.mem_cons_self)
    rw [Lower.lowerText, List.flatMap_cons, hc]
    exact congrArg (c :: ·) (ih fun d hd => h d (List.mem_cons_of_mem _ hd))

/-! ## Words -/

def isGap (c : Char) : Bool := c == ' ' || c == '-'

def pieces (isGap : Char → Bool) (cs : List Char) : List (List Char) :=
  (cs.splitOnP isGap).filter (!·.isEmpty)

/-- The words of a text. What is no letter, no digit and no gap does not count. -/
def words (cs : List Char) : List (List Char) :=
  pieces isGap (cs.filter fun c => isWordChar c || isGap c)

def ofWords (words : List (List Char)) : String :=
  if words = [] then "workspace" else String.ofList (['-'].intercalate words)

section
variable {p : Char → Bool}

theorem pieces_gap {c : Char} (h : p c = true) (front rest : List Char) :
    pieces p (front ++ c :: rest) = pieces p front ++ pieces p rest := by
  simp [pieces, List.splitOnP_append_cons _ _ h]

theorem pieces_gap_cons {c : Char} (h : p c = true) (rest : List Char) : pieces p (c :: rest) = pieces p rest :=
  pieces_gap h [] rest

theorem pieces_gaps (front : List Char) : ∀ {gaps : List Char}, (∀ c ∈ gaps, p c = true) →
    pieces p (front ++ gaps) = pieces p front
  | [], _ => by rw [List.append_nil]
  | c :: gaps, h => by
    have hgaps := pieces_gaps [] fun d hd => h d (List.mem_cons_of_mem _ hd)
    rw [pieces_gap (h c List.mem_cons_self), ← List.nil_append gaps, hgaps]
    exact List.append_nil _

theorem pieces_dropWhile (cs : List Char) : pieces p (cs.dropWhile p) = pieces p cs := by
  induction cs with
  | nil => rfl
  | cons c cs ih =>
    by_cases hc : p c = true
    · rw [List.dropWhile_cons_of_pos hc, ih, pieces_gap_cons hc]
    · rw [List.dropWhile_cons_of_neg hc]

theorem pieces_stripBy (cs : List Char) : pieces p (Blank.stripBy p cs) = pieces p cs := by
  -- the gaps at the end are those that are dropped from the reversed text
  have hend : ∀ ds : List Char, pieces p (ds.reverse.dropWhile p).reverse = pieces p ds := by
    intro ds
    have hsplit : ds = (ds.reverse.dropWhile p).reverse ++ (ds.reverse.takeWhile p).reverse := by
      rw [← List.reverse_append, List.takeWhile_append_dropWhile, List.reverse_reverse]
    conv_rhs => rw [hsplit]
    refine (pieces_gaps _ fun c hc => ?_).symm
    exact List.all_eq_true.mp List.all_takeWhile c (List.mem_reverse.mp hc)
  rw [Blank.stripBy, hend, pieces_dropWhile]

end

theorem pieces_squeeze (cs : List Char) :
    ∀ front, pieces isHyphen (front ++ squeeze cs) = pieces isHyphen (front ++ cs) := by
  have hgap : isHyphen '-' = true := rfl
  fun_induction squeeze cs with
  | case1 rest ih =>
    intro front
    rw [ih, pieces_gap hgap, pieces_gap hgap, pieces_gap_cons hgap]
  | case2 c rest hc ih =>
    -- the character goes over to what stands in front
    intro front
    rw [List.append_cons, ih, ← List.append_cons]
  | case3 => intro front; rfl

/-! ## Slugs -/

theorem words_eq (cs : List Char) :
    words cs = pieces isHyphen ((cs.map fun c => if c = ' ' then '-' else c).filter isAllowed) := by
  unfold words pieces
  congr 1
  induction cs with
  | nil => rfl
  | cons c cs ih =>
    rw [List.map_cons, List.filter_cons, List.filter_cons]
    by_cases hspace : c = ' '
    · subst hspace
      simp [isGap, isAllowed, isHyphen, List.splitOnP_cons_eq_if_modifyHead] at ih ⊢
      exact ih
    · by_cases hhyphen : c = '-'
      · subst hhyphen
        simp [isGap, isAllowed, isHyphen, List.splitOnP_cons_eq_if_modifyHead] at ih ⊢
        exact ih
      · have hgap : isGap c = false := by simp [isGap, hspace, hhyphen]
        have hword : isAllowed c = isWordChar c := by simp [isAllowed, isWordChar, hhyphen]
        have hplain : isHyphen c = false := by simp [isHyphen, hhyphen]
        rw [if_neg hspace, hgap, Bool.or_false, hword]
        by_cases hc : isWordChar c = true
        · rw [if_pos hc, if_pos hc, List.splitOnP_cons_eq_if_modifyHead,
            List.splitOnP_cons_eq_if_modifyHead, hgap, hplain, ih]
        · rw [if_neg hc, if_neg hc, ih]

theorem IsForm.ne_nil {cs w : List Char} (h : IsForm cs) : w ∈ cs.splitOnP isHyphen → w ≠ [] := by
  have hplain : ∀ {c}, isWordChar c = true → isHyphen c = false := by
    intro c hc
    simpa [isHyphen] using ne_hyphen hc
  induction h generalizing w with
  | last hc =>
    simp only [List.splitOnP_cons_eq_if_modifyHead, hplain hc]
    intro hw
    rw [List.mem_singleton.mp hw]
    exact List.cons_ne_nil _ _
  | @letter c cs hc _ ih =>
    rw [List.splitOnP_cons_eq_if_modifyHead, hplain hc]
    cases hcs : cs.splitOnP isHyphen with
    | nil => simp
    | cons first others =>
      rw [hcs] at ih
      intro hw
      rcases List.mem_cons.mp hw with rfl | hw
      · exact List.cons_ne_nil _ _
      · exact ih (List.mem_cons_of_mem _ hw)
  | hyphen hc _ ih =>
    have hgap : isHyphen '-' = true := rfl
    simp only [List.splitOnP_cons_eq_if_modifyHead, hplain hc, hgap]
    intro hw
    rcases List.mem_cons.mp hw with rfl | hw
    · exact List.cons_ne_nil _ _
    · exact ih hw

/-- A text in the form of a slug is its own pieces with hyphens between them. -/
theorem IsForm.intercalate_pieces {cs : List Char} (h : IsForm cs) :
    ['-'].intercalate (pieces isHyphen cs) = cs := by
  have hfull : pieces isHyphen cs = cs.splitOn '-' := by
    refine List.filter_eq_self.mpr fun w hw => ?_
    simpa using h.ne_nil hw
  rw [hfull, List.intercalate_splitOn]

theorem IsForm.ofWords_pieces {cs : List Char} (h : IsForm cs) :
    ofWords (pieces isHyphen cs) = String.ofList cs := by
  have hjoined := h.intercalate_pieces
  have hne : pieces isHyphen cs ≠ [] := by
    intro hnil
    rw [hnil] at hjoined
    subst hjoined
    cases h
  rw [ofWords, if_neg hne, hjoined]

theorem ofWords_stripped {cs : List Char} (h : ∀ c ∈ cs, isAllowed c = true) :
    ofWords (pieces isHyphen cs) = orFallback (Blank.stripBy isHyphen (squeeze cs)) := by
  have hkept : pieces isHyphen (Blank.stripBy isHyphen (squeeze cs)) = pieces isHyphen cs := by
    rw [pieces_stripBy]
    exact pieces_squeeze cs []
  have hform := isForm_stripped h
  unfold orFallback at *
  rw [← hkept]
  by_cases hne : (Blank.stripBy isHyphen (squeeze cs)).isEmpty = true
  · rw [if_pos hne, List.isEmpty_iff.mp hne]
    rfl
  · rw [if_neg hne] at hform ⊢
    rw [String.toList_ofList] at hform
    exact hform.ofWords_pieces

theorem ofName_eq (name : String) : ofName name = ofWords (words (Lower.lowerText name.toList)) := by
  rw [words_eq, ofWords_stripped fun c hc => (List.mem_filter.mp hc).2]
  rfl

theorem ofName_of_isForm {s : String} (h : IsForm s.toList) : ofName s = s := by
  have hallowed := h.tidy.allowed
  have hplain : (s.toList.map fun c => if c = ' ' then '-' else c) = s.toList := by
    have hsame : ∀ c ∈ s.toList, (if c = ' ' then '-' else c) = c := by
      intro c hc
      rw [if_neg]
      rintro rfl
      cases hallowed _ hc
    rw [List.map_congr_left hsame, List.map_id']
  rw [ofName_eq, words_eq, lowerText_allowed hallowed, hplain, List.filter_eq_self.mpr hallowed,
    h.ofWords_pieces, String.ofList_toList]

/-- **The slug of a name.** Its words in lower case with hyphens between them, whichever rule there is
for the sigmas. The texts of this form are the slugs, and the slug of a slug is the slug itself. -/
theorem ofName_spells_words (name : String) :
    (∀ isFinal, ofName name = ofWords (words (Lower.full isFinal [] name.toList))) ∧
      IsForm (ofName name).toList ∧ ofName (ofName name) = ofName name ∧
      (ofName name = name ↔ IsForm name.toList) := by
  refine ⟨fun isFinal => ?_, isForm_ofName name, ofName_of_isForm (isForm_ofName name), fun h => ?_,
    ofName_of_isForm⟩
  · rw [words, filter_full (by decide) (by decide)]
    exact ofName_eq name
  · rw [← h]
    exact isForm_ofName name

end Slug

end Gatehouse
