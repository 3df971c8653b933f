import Gatehouse.Http.Message
import Gatehouse.Proofs.Text.Pieces
import Mathlib.Data.List.Forall2

/-!
# Cookies come back

A value that was written into a cookie reads back from every header that returns it, whether it was
quoted or not and whatever other cookies stand around it.
-/

namespace Gatehouse

namespace Cookie

/-! ## Quotes -/

def octalDigit (n : Nat) : Char := Char.ofNat (48 + n)

theorem isOctal_digit : ∀ n < 8, isOctal '7' (octalDigit n) = true := by decide

theorem isOctal_top : ∀ n < 4, isOctal '3' (octalDigit n) = true := by decide

theorem toNat_octalDigit : ∀ n < 8, (octalDigit n).toNat - 48 = n := by decide

theorem unescape_octal {c : Char} (h : c.toNat < 256) (rest : List Char) :
    unescape ('\\' :: octal c.toNat ++ rest) = c :: unescape rest := by
  have htop : c.toNat / 64 < 4 := by omega
  have hmiddle : c.toNat / 8 % 8 < 8 := Nat.mod_lt _ (by decide)
  have hlast : c.toNat % 8 < 8 := Nat.mod_lt _ (by decide)
  have hdigits : octal c.toNat =
      [octalDigit (c.toNat / 64), octalDigit (c.toNat / 8 % 8), octalDigit (c.toNat % 8)] := rfl
  have hvalue : c.toNat / 64 * 64 + c.toNat / 8 % 8 * 8 + c.toNat % 8 = c.toNat := by omega
  rw [hdigits, List.cons_append, List.cons_append, List.cons_append, List.cons_append, List.nil_append,
    unescape, isOctal_top _ htop, isOctal_digit _ hmiddle, isOctal_digit _ hlast,
    toNat_octalDigit _ (Nat.lt_trans htop (by decide)), toNat_octalDigit _ hmiddle,
    toNat_octalDigit _ hlast, hvalue, Char.ofNat_toNat]
  rfl

/-- Outside of an escape a character stands for itself. -/
theorem unescape_plain {c : Char} (h : c ≠ '\\') (rest : List Char) :
    unescape (c :: rest) = c :: unescape rest :=
  unescape.eq_3 c rest (fun _ _ _ _ hc _ => h hc) fun _ _ hc _ => h hc

theorem unescape_marked {c : Char} (h : c = '"' ∨ c = '\\') (rest : List Char) :
    unescape ('\\' :: c :: rest) = c :: unescape rest := by
  rcases h with rfl | rfl
  all_goals
    match rest with
    | [] => rfl
    | [_] => rfl
    | _ :: _ :: _ => rfl

theorem unescape_escape (c : Char) (rest : List Char) :
    unescape (escape c ++ rest) = c :: unescape rest := by
  unfold escape
  by_cases hquote : c = '"'
  · rw [if_pos hquote, hquote]
    exact unescape_marked (.inl rfl) rest
  by_cases hslash : c = '\\'
  · rw [if_neg hquote, if_pos hslash, hslash]
    exact unescape_marked (.inr rfl) rest
  rw [if_neg hquote, if_neg hslash]
  by_cases hbare : isBare c || 255 < c.toNat
  · rw [if_pos hbare]
    exact unescape_plain hslash rest
  · rw [if_neg hbare]
    rw [Bool.not_eq_true, Bool.or_eq_false_iff, decide_eq_false_iff_not] at hbare
    exact unescape_octal (by omega) rest

theorem unescape_flatMap (value : List Char) : unescape (value.flatMap escape) = value := by
  induction value with
  | nil => rfl
  | cons c rest ih => rw [List.flatMap_cons, unescape_escape, ih]

theorem unquote_bare {value : List Char} (h : '"' ∉ value) : unquote value = value := by
  unfold unquote
  split
  · exact absurd List.mem_cons_self h
  · rfl

/-- What was quoted reads back, whatever it was. -/
theorem unquote_quote (value : List Char) : unquote (quote value) = value := by
  by_cases hplain : !value.isEmpty && value.all isPlain
  · rw [quote, if_pos hplain]
    rw [Bool.and_eq_true, List.all_eq_true] at hplain
    exact unquote_bare fun hc => absurd (hplain.2 '"' hc) (by decide)
  · rw [quote, if_neg hplain, List.cons_append, unquote, List.getLast?_concat, if_pos rfl,
      List.dropLast_concat, unescape_flatMap]

/-! ## Safe characters -/

theorem isPlain_range {c : Char} (h : isPlain c = true) : 33 ≤ c.toNat ∧ c.toNat < 127 := by
  have hmarks : "!#$%&*+-.^_`|~:".toList.all (fun d => 33 ≤ d.toNat ∧ d.toNat < 127) = true := by decide
  rw [isPlain, Bool.or_eq_true, Bool.or_eq_true, List.contains_iff_mem, beq_iff_eq] at h
  rcases h with (h | h) | h
  · have hranges : c.isAlphanum = (decide (65 ≤ c.val ∧ c.val ≤ 90) ||
        decide (97 ≤ c.val) && decide (c.val ≤ 122) || decide (48 ≤ c.val) && decide (c.val ≤ 57)) := rfl
    have hval : c.toNat = c.val.toNat := rfl
    rw [hranges] at h
    simp only [Bool.or_eq_true, Bool.and_eq_true, decide_eq_true_eq, UInt32.le_iff_toNat_le,
      UInt32.reduceToNat] at h
    omega
  · exact of_decide_eq_true (List.all_eq_true.mp hmarks c h)
  · subst h
    decide

theorem isBare_range {c : Char} (h : isBare c = true) : c.toNat < 127 := by
  have hmarks : " ()/<=>?@[]\x7b\x7d".toList.all (·.toNat < 127) = true := by decide
  rw [isBare, Bool.or_eq_true, List.contains_iff_mem] at h
  rcases h with h | h
  · exact (isPlain_range h).2
  · exact of_decide_eq_true (List.all_eq_true.mp hmarks c h)

theorem not_isBlank_of_range {c : Char} (h : 33 ≤ c.toNat ∧ c.toNat < 127) : Blank.isBlank c = false := by
  obtain ⟨hlow, hhigh⟩ := h
  simp only [Blank.isBlank, Bool.or_eq_false_iff, Bool.and_eq_false_iff, decide_eq_false_iff_not,
    beq_eq_false_iff_ne]
  omega

theorem semicolon_not_mem_escape (c : Char) : ';' ∉ escape c := by
  have hdigit : ∀ n < 8, ';' ≠ octalDigit n := by decide
  unfold escape
  by_cases hquote : c = '"'
  · rw [if_pos hquote]
    decide
  by_cases hslash : c = '\\'
  · rw [if_neg hquote, if_pos hslash]
    decide
  rw [if_neg hquote, if_neg hslash]
  by_cases hbare : isBare c || 255 < c.toNat
  · rw [if_pos hbare, List.mem_singleton]
    rintro rfl
    exact absurd hbare (by decide)
  · rw [if_neg hbare]
    rw [Bool.not_eq_true, Bool.or_eq_false_iff, decide_eq_false_iff_not] at hbare
    have hoctal : octal c.toNat =
      [octalDigit (c.toNat / 64), octalDigit (c.toNat / 8 % 8), octalDigit (c.toNat % 8)] := rfl
    simp only [hoctal, List.mem_cons, List.not_mem_nil, or_false, not_or]
    exact ⟨by decide, hdigit _ (by omega), hdigit _ (by omega), hdigit _ (by omega)⟩

theorem semicolon_not_mem_quote (value : List Char) : ';' ∉ quote value := by
  by_cases hplain : !value.isEmpty && value.all isPlain
  · rw [quote, if_pos hplain]
    rw [Bool.and_eq_true, List.all_eq_true] at hplain
    exact fun hc => absurd (hplain.2 ';' hc) (by decide)
  · rw [quote, if_neg hplain, List.cons_append, List.mem_cons, List.mem_append, List.mem_flatMap,
      List.mem_singleton]
    rintro (hc | ⟨c, -, hc⟩ | hc)
    · exact absurd hc (by decide)
    · exact semicolon_not_mem_escape c hc
    · exact absurd hc (by decide)

/-! ## Parts of a header -/

theorem stripBy_quote (value : List Char) : Blank.stripBy Blank.isBlank (quote value) = quote value := by
  by_cases hplain : !value.isEmpty && value.all isPlain
  · rw [quote, if_pos hplain]
    rw [Bool.and_eq_true, List.all_eq_true] at hplain
    have hsafe : ∀ c ∈ value, Blank.isBlank c = false :=
      fun c hc => not_isBlank_of_range (isPlain_range (hplain.2 c hc))
    exact Blank.stripBy_eq_self (fun c hc => hsafe c (List.mem_of_head? hc))
      fun c hc => hsafe c (List.mem_of_getLast? hc)
  · have hmark : Blank.isBlank '"' = false := by decide
    rw [quote, if_neg hplain]
    apply Blank.stripBy_eq_self
    · rintro c hc
      cases hc
      exact hmark
    · rintro c hc
      rw [List.getLast?_concat] at hc
      cases hc
      exact hmark

theorem readPart_pair {name value : List Char} (hname : '=' ∉ name)
    (htidy : Blank.stripBy Blank.isBlank name = name) :
    readPart (name ++ '=' :: value) = (name, unquote (Blank.stripBy Blank.isBlank value)) := by
  have hfree : ∀ c ∈ name, (c != '=') = true := fun c hc => bne_iff_ne.mpr fun h => hname (h ▸ hc)
  have htake : (name ++ '=' :: value).takeWhile (· != '=') = name := by
    rw [List.takeWhile_append_of_pos hfree]
    simp
  have hlength : name.length < (name ++ '=' :: value).length := by
    rw [List.length_append, List.length_cons]
    omega
  have hdrop : (name ++ '=' :: value).drop (name.length + 1) = value := by
    simp
  unfold readPart
  simp only [htake, if_pos hlength, hdrop, htidy]

/-- The gap behind a semicolon does not matter. -/
theorem readPart_gap (part : List Char) : readPart (' ' :: part) = readPart part := by
  have hstrip : ∀ cs, Blank.stripBy Blank.isBlank (' ' :: cs) = Blank.stripBy Blank.isBlank cs := fun _ => rfl
  have htake : (' ' :: part).takeWhile (· != '=') = ' ' :: part.takeWhile (· != '=') := rfl
  unfold readPart
  rw [htake]
  by_cases h : (part.takeWhile (· != '=')).length < part.length
  · have hgap : (' ' :: part.takeWhile (· != '=')).length < (' ' :: part).length := Nat.succ_lt_succ h
    simp only [if_pos h, if_pos hgap, hstrip]
    rfl
  · have hgap : ¬ (' ' :: part.takeWhile (· != '=')).length < (' ' :: part).length :=
      fun hlt => h (Nat.lt_of_succ_lt_succ hlt)
    simp only [if_neg h, if_neg hgap, hstrip]

/-! ## Cookies that were set -/

def given (setCookie : String) : String := String.ofList (setCookie.toList.takeWhile (· != ';'))

/-- What a client sends back for a cookie that was set: the pair as it was given, or without quotes. -/
def Returns (setCookie part : String) : Prop :=
  part = given setCookie ∨ part = String.ofList ((given setCookie).toList.filter (· != '"'))

def Reads (part name value : String) : Prop :=
  ';' ∉ part.toList ∧ readPart part.toList = (name.toList, value.toList)

theorem toList_pair (name value : String) :
    (pair name value).toList = name.toList ++ '=' :: quote value.toList := by
  have hequals : "=".toList = ['='] := rfl
  rw [pair, String.toList_append, String.toList_append, String.toList_ofList (l := quote value.toList),
    hequals, List.append_assoc]
  rfl

def IsBareword (value : String) : Prop :=
  ∀ c ∈ value.toList, isBare c = true ∧ Blank.isBlank c = false

/-- Quotes are put around such characters, and nothing else happens to them. -/
theorem quote_bare {value : List Char} (h : ∀ c ∈ value, isBare c = true) :
    quote value = value ∨ quote value = '"' :: value ++ ['"'] := by
  by_cases hplain : !value.isEmpty && value.all isPlain
  · left
    rw [quote, if_pos hplain]
  · right
    have hescape : ∀ c ∈ value, escape c = [c] := by
      intro c hc
      have hquote : c ≠ '"' := by
        rintro rfl
        exact absurd (h '"' hc) (by decide)
      have hslash : c ≠ '\\' := by
        rintro rfl
        exact absurd (h '\\' hc) (by decide)
      rw [escape, if_neg hquote, if_neg hslash, h c hc]
      rfl
    rw [quote, if_neg hplain, List.flatMap_congr hescape, List.flatMap_singleton']

theorem filter_quote {value : List Char} (h : ∀ c ∈ value, isBare c = true) :
    (quote value).filter (· != '"') = value := by
  have hfree : ∀ c ∈ value, (c != '"') = true := by
    intro c hc
    rw [bne_iff_ne]
    rintro rfl
    exact absurd (h '"' hc) (by decide)
  rcases quote_bare h with hquote | hquote
  · rw [hquote, List.filter_eq_self.mpr hfree]
  · rw [hquote, List.cons_append, List.filter_cons_of_neg (by simp), List.filter_append,
      List.filter_eq_self.mpr hfree]
    simp

section
variable {name : String} (hname : ∀ c ∈ name.toList, isPlain c = true)
include hname

theorem not_mem_name {c : Char} (hc : isPlain c = false) : c ∉ name.toList :=
  fun h => Bool.false_ne_true (hc.symm.trans (hname c h))

theorem reads_of_toList {part value : String} {written : List Char}
    (hpart : part.toList = name.toList ++ '=' :: written) (hsemicolon : ';' ∉ written)
    (htidy : Blank.stripBy Blank.isBlank written = written) (hvalue : unquote written = value.toList) :
    Reads part name value := by
  have hsafe : ∀ c ∈ name.toList, Blank.isBlank c = false :=
    fun c hc => not_isBlank_of_range (isPlain_range (hname c hc))
  have htidyName : Blank.stripBy Blank.isBlank name.toList = name.toList :=
    Blank.stripBy_eq_self (fun c hc => hsafe c (List.mem_of_head? hc)) fun c hc => hsafe c (List.mem_of_getLast? hc)
  refine ⟨?_, ?_⟩
  · rw [hpart, List.mem_append, List.mem_cons]
    rintro (h | h | h)
    · exact not_mem_name hname (by decide) h
    · exact absurd h (by decide)
    · exact hsemicolon h
  · rw [hpart, readPart_pair (not_mem_name hname (by decide)) htidyName, htidy, hvalue]

theorem reads_pair (value : String) : Reads (pair name value) name value :=
  reads_of_toList hname (toList_pair name value) (semicolon_not_mem_quote _) (stripBy_quote _) (unquote_quote _)

theorem given_header (settings : Settings) (value : String) (maxAge : Int) :
    given (header settings name value maxAge) = pair name value := by
  obtain ⟨first, others, hheader⟩ : ∃ first others,
      header settings name value maxAge = "; ".intercalate (pair name value :: first :: others) := by
    obtain ⟨domain, secure, httpOnly, sameSite⟩ := settings
    cases domain <;> cases httpOnly <;> exact ⟨_, _, rfl⟩
  have hfree : ∀ c ∈ (pair name value).toList, (c != ';') = true :=
    fun c hc => bne_iff_ne.mpr fun h => (reads_pair hname value).1 (h ▸ hc)
  rw [given, hheader, String.toList_intercalate, List.map_cons, List.map_cons, List.intercalate_cons_cons,
    List.append_assoc, List.takeWhile_append_of_pos hfree]
  show String.ofList ((pair name value).toList ++ []) = _
  rw [List.append_nil, String.ofList_toList]

theorem reads_returned {value part : String} (hvalue : IsBareword value) {settings : Settings} {maxAge : Int}
    (h : Returns (header settings name value maxAge) part) : Reads part name value := by
  rw [Returns, given_header hname] at h
  rcases h with rfl | rfl
  · exact reads_pair hname value
  · have hbare : ∀ c ∈ value.toList, isBare c = true := fun c hc => (hvalue c hc).1
    have hblank : ∀ c ∈ value.toList, Blank.isBlank c = false := fun c hc => (hvalue c hc).2
    have hpart : (pair name value).toList.filter (· != '"') = name.toList ++ '=' :: value.toList := by
      have hfree : ∀ c ∈ name.toList, (c != '"') = true := by
        intro c hc
        rw [bne_iff_ne]
        rintro rfl
        exact not_mem_name hname (by decide) hc
      rw [toList_pair, List.filter_append, List.filter_eq_self.mpr hfree,
        List.filter_cons_of_pos (by decide), filter_quote hbare]
    rw [hpart]
    apply reads_of_toList hname String.toList_ofList
    · exact fun hc => absurd (hbare ';' hc) (by decide)
    · exact Blank.stripBy_eq_self (fun c hc => hblank c (List.mem_of_head? hc))
        fun c hc => hblank c (List.mem_of_getLast? hc)
    · exact unquote_bare fun hc => absurd (hbare '"' hc) (by decide)

end

/-! ## Finding a cookie -/

theorem readParts_joined {parts : List String} (hparts : ∀ part ∈ parts, ';' ∉ part.toList)
    (hsome : parts ≠ []) : (Split.on ';' ("; ".intercalate parts).toList).map readPart =
      parts.map fun part => readPart part.toList := by
  obtain ⟨first, others, rfl⟩ := List.exists_cons_of_ne_nil hsome
  have hseparator : "; ".toList = [';', ' '] := rfl
  have hlists : ∀ piece ∈ first.toList :: others.map String.toList, ';' ∉ piece := by
    rw [← List.map_cons]
    intro piece hpiece
    obtain ⟨part, hpart, rfl⟩ := List.mem_map.mp hpiece
    exact hparts part hpart
  rw [String.toList_intercalate, hseparator, List.map_cons, Split.on_intercalate (by decide) _ _ hlists,
    List.map_cons, List.map_map, List.map_map, List.map_cons]
  congr 1
  exact List.map_congr_left fun part _ => readPart_gap part.toList

theorem find_reads {parts : List String} {part name value : String} (hmem : part ∈ parts)
    (hreads : Reads part name value)
    (hother : ∀ other ∈ parts, (readPart other.toList).1 = name.toList → other = part) :
    (parts.map fun part => readPart part.toList).reverse.find? (fun r => r.1 == name.toList) =
      some (name.toList, value.toList) := by
  cases hfound : (parts.map fun part => readPart part.toList).reverse.find? fun r => r.1 == name.toList with
  | none =>
    rw [List.find?_eq_none] at hfound
    have hread : readPart part.toList ∈ (parts.map fun part => readPart part.toList).reverse :=
      List.mem_reverse.mpr (List.mem_map_of_mem hmem)
    exact absurd (by rw [hreads.2]; exact beq_self_eq_true _) (hfound _ hread)
  | some r =>
    obtain ⟨other, hmem, rfl⟩ := List.mem_map.mp (List.mem_reverse.mp (List.mem_of_find?_eq_some hfound))
    have hnamed := List.find?_some hfound
    rw [beq_iff_eq] at hnamed
    rw [hother other hmem hnamed, hreads.2]

theorem find?_eq (text name : String) :
    find? text name = (((Split.on ';' text.toList).map readPart).reverse.find? fun r => r.1 == name.toList).map
      fun r => String.ofList r.2 := rfl

/-- A cookie is found in a header where nothing else has its name. -/
theorem find?_of_reads {parts : List String} (hparts : ∀ part ∈ parts, ';' ∉ part.toList)
    {part name value : String} (hmem : part ∈ parts) (hreads : Reads part name value)
    (hother : ∀ other ∈ parts, (readPart other.toList).1 = name.toList → other = part) :
    find? ("; ".intercalate parts) name = some value := by
  rw [find?_eq, readParts_joined hparts (List.ne_nil_of_mem hmem), find_reads hmem hreads hother,
    Option.map_some, String.ofList_toList]

/-- The last parts of a header count, whatever stands before them. -/
theorem find?_of_last {front parts : List String} (hfront : front ≠ [])
    (hparts : ∀ part ∈ parts, ';' ∉ part.toList) {part name value : String} (hmem : part ∈ parts)
    (hreads : Reads part name value)
    (hother : ∀ other ∈ parts, (readPart other.toList).1 = name.toList → other = part) :
    find? ("; ".intercalate (front ++ parts)) name = some value := by
  have hsome : parts ≠ [] := List.ne_nil_of_mem hmem
  have hseparator : "; ".toList = [';', ' '] := rfl
  have hsplit : (Split.on ';' ("; ".intercalate (front ++ parts)).toList).map readPart =
      (Split.on ';' ("; ".intercalate front).toList).map readPart ++
        parts.map fun part => readPart part.toList := by
    have hgap : (Split.on ';' (' ' :: ("; ".intercalate parts).toList)).map readPart =
        (Split.on ';' ("; ".intercalate parts).toList).map readPart := by
      obtain ⟨first, others, hpieces⟩ := @Split.on_eq_cons ';' ("; ".intercalate parts).toList
      have hfree : ';' ∉ [' '] := by decide
      have hprepend := Split.on_prepend hfree hpieces
      rw [List.singleton_append] at hprepend
      rw [hprepend, hpieces, List.map_cons, List.map_cons]
      exact congrArg (· :: _) (readPart_gap first)
    have hjoined : ("; ".intercalate (front ++ parts)).toList =
        ("; ".intercalate front).toList ++ ';' :: ' ' :: ("; ".intercalate parts).toList := by
      simp only [String.toList_intercalate, List.map_append, hseparator]
      rw [Split.intercalate_append _ (by simpa using hfront) (by simpa using hsome), List.append_assoc]
      rfl
    rw [hjoined, Split.on_append, List.map_append, hgap, readParts_joined hparts hsome]
  rw [find?_eq, hsplit, List.reverse_append, List.find?_append, find_reads hmem hreads hother,
    Option.some_or, Option.map_some, String.ofList_toList]

/-! ## The age of a cookie -/

theorem isBareword_digits (n : Nat) : IsBareword (toString n) := by
  intro c hc
  rw [Nat.toString_eq_ofList_toDigits, String.toList_ofList] at hc
  have hdigit := Nat.isDigit_of_mem_toDigits (by decide) (by decide) hc
  have hplain : isPlain c = true := by
    simp [isPlain, Char.isAlphanum, hdigit]
  refine ⟨?_, not_isBlank_of_range (isPlain_range hplain)⟩
  rw [isBare, hplain]
  rfl

/-- A client keeps a cookie for as long as it was set to last, whatever its value and its domain are. -/
theorem find?_age (settings : Settings) (name value : String) (n : Nat) :
    find? (header settings name value n) "Max-Age" = some (toString n) := by
  let age : String := "Max-Age=" ++ toString n
  let back : List String := [age, "Path=/", "SameSite=" ++ settings.sameSite.word] ++
    if settings.secure then ["Secure"] else []
  obtain ⟨front, hfront, hheader⟩ : ∃ front : List String, front ≠ [] ∧
      header settings name value n = "; ".intercalate (front ++ back) := by
    refine ⟨pair name value :: (settings.domain.toList.map ("Domain=" ++ ·) ++
      if settings.httpOnly then ["HttpOnly"] else []), List.cons_ne_nil _ _, ?_⟩
    obtain ⟨domain, secure, httpOnly, sameSite⟩ := settings
    cases domain <;> cases httpOnly <;> rfl
  have hbare := isBareword_digits n
  have hreads : Reads age "Max-Age" (toString n) := by
    have htext : age.toList = "Max-Age".toList ++ '=' :: (toString n).toList := String.toList_append
    apply reads_of_toList (List.all_eq_true.mp (by decide)) htext
    · exact fun hc => absurd (hbare ';' hc).1 (by decide)
    · exact Blank.stripBy_eq_self (fun c hc => (hbare c (List.mem_of_head? hc)).2)
        fun c hc => (hbare c (List.mem_of_getLast? hc)).2
    · exact unquote_bare fun hc => absurd (hbare '"' hc).1 (by decide)
  have hothers : ∀ other ∈ back, other = age ∨ ';' ∉ other.toList ∧
      (readPart other.toList).1 ≠ "Max-Age".toList := by
    have hsite : ∀ site : SameSite, ';' ∉ ("SameSite=" ++ site.word).toList ∧
        (readPart ("SameSite=" ++ site.word).toList).1 ≠ "Max-Age".toList := by
      intro site
      cases site <;> decide
    intro other hother
    simp only [back, List.mem_append, List.mem_cons, List.not_mem_nil, or_false] at hother
    rcases hother with (rfl | rfl | rfl) | hother
    · exact .inl rfl
    · exact .inr (by decide)
    · exact .inr (hsite settings.sameSite)
    · split at hother
      · cases List.mem_singleton.mp hother
        exact .inr (by decide)
      · cases hother
  have hmem : age ∈ back := by
    simp [back]
  rw [hheader]
  refine find?_of_last hfront ?_ hmem hreads ?_
  · intro part hpart
    rcases hothers part hpart with rfl | h
    · exact hreads.1
    · exact h.1
  · intro other hother hnamed
    rcases hothers other hother with h | h
    · exact h
    · exact absurd hnamed h.2

/-! ## Sending -/

theorem isSendable_intercalate (parts : List String) :
    isSendable ("; ".intercalate parts) = true ↔ ∀ part ∈ parts, isSendable part = true := by
  simp only [isSendable, String.toList_intercalate]
  induction parts with
  | nil => simp
  | cons first others ih =>
    cases others with
    | nil => simp
    | cons second others =>
      have hseparator : "; ".toList.all (·.toNat < 256) = true := by decide
      rw [List.map_cons, List.map_cons] at *
      rw [List.intercalate_cons_cons, List.all_append, List.all_append, hseparator, List.forall_mem_cons, ← ih,
        Bool.and_true, Bool.and_eq_true]

theorem session?_eq_some {settings : Settings} {access sealed : String} {maxAge : Int} {headers : List String} :
    session? settings access sealed maxAge = some headers ↔
      headers = [header settings accessName access maxAge, header settings sealedName sealed maxAge] ∧
        headers.all isSendable = true := by
  simp only [session?]
  split
  · rename_i hall
    constructor
    · intro h
      cases h
      exact ⟨rfl, hall⟩
    · rintro ⟨rfl, -⟩
      rfl
  · rename_i hall
    constructor
    · intro h
      cases h
    · rintro ⟨rfl, hsent⟩
      exact absurd hsent hall

theorem isSendable_header {settings : Settings} {name value : String} {maxAge : Int}
    (hpair : isSendable (pair name value) = true) (hage : isSendable ("Max-Age=" ++ toString maxAge) = true)
    (hdomain : ∀ d, settings.domain = some d → isSendable ("Domain=" ++ d) = true) :
    isSendable (header settings name value maxAge) = true := by
  have hword : ∀ sameSite : SameSite, isSendable ("SameSite=" ++ sameSite.word) = true := by
    intro sameSite
    cases sameSite <;> decide
  have hflag : ∀ (on : Bool) {word part : String}, isSendable word = true →
      part ∈ (if on then [word] else []) → isSendable part = true := by
    intro on word part hsent hpart
    cases on with
    | true => exact List.mem_singleton.mp hpart ▸ hsent
    | false => cases hpart
  simp only [header]
  rw [isSendable_intercalate]
  intro part hpart
  simp only [List.mem_append, List.mem_cons, List.not_mem_nil, or_false] at hpart
  rcases hpart with (((rfl | hpart) | hpart) | rfl | rfl | rfl) | hpart
  · exact hpair
  · split at hpart
    · rename_i d hd
      cases List.mem_singleton.mp hpart
      exact hdomain d hd
    · cases hpart
  · exact hflag _ (by decide) hpart
  · exact hage
  · decide
  · exact hword settings.sameSite
  · exact hflag _ (by decide) hpart

theorem isSendable_domain {settings : Settings} {name value : String} {maxAge : Int}
    (h : isSendable (header settings name value maxAge) = true) :
    ∀ d, settings.domain = some d → isSendable ("Domain=" ++ d) = true := by
  intro d hd
  apply (isSendable_intercalate _).mp h
  simp [hd]

theorem cleared?_eq_some_iff {settings : Settings} {headers : List String} :
    cleared? settings = some headers ↔
      headers = [header settings accessName "" (-1), header settings sealedName "" (-1)] ∧
        ∀ d, settings.domain = some d → isSendable ("Domain=" ++ d) = true := by
  rw [cleared?, session?_eq_some]
  refine and_congr_right ?_
  rintro rfl
  constructor
  · intro hall
    rw [List.all_cons, Bool.and_eq_true] at hall
    exact isSendable_domain hall.1
  · intro hdomain
    have haccess : isSendable (header settings accessName "" (-1)) = true :=
      isSendable_header (by decide) (by decide) hdomain
    have hsealed : isSendable (header settings sealedName "" (-1)) = true :=
      isSendable_header (by decide) (by decide) hdomain
    rw [List.all_cons, List.all_cons, haccess, hsealed]
    rfl

/-- Where a session could be set it can be cleared: the two have the domain in common. -/
theorem cleared?_of_session? {settings : Settings} {access sealed : String} {maxAge : Int}
    {headers : List String} (h : session? settings access sealed maxAge = some headers) :
    cleared? settings = some [header settings accessName "" (-1), header settings sealedName "" (-1)] := by
  obtain ⟨rfl, hall⟩ := session?_eq_some.mp h
  rw [List.all_cons, Bool.and_eq_true] at hall
  exact cleared?_eq_some_iff.mpr ⟨rfl, isSendable_domain hall.1⟩

theorem isSendable_pair {name value : String} (hname : isSendable name = true) (hvalue : IsBareword value) :
    isSendable (pair name value) = true := by
  have hbare : ∀ c ∈ value.toList, isBare c = true := fun c hc => (hvalue c hc).1
  have hsent : value.toList.all (·.toNat < 256) = true := by
    rw [List.all_eq_true]
    intro c hc
    have hrange := isBare_range (hbare c hc)
    exact decide_eq_true (by omega)
  have hquoted : (quote value.toList).all (·.toNat < 256) = true := by
    rcases quote_bare hbare with h | h
    · rw [h, hsent]
    · rw [h, List.all_append, List.all_cons, hsent]
      decide
  rw [isSendable] at hname ⊢
  rw [toList_pair, List.all_append, List.all_cons, hname, hquoted]
  decide

end Cookie

/-! ## Requests with cookies -/

namespace Http.Request

open Cookie

variable {r : Request}

/-- The one cookie header of a request brings back the cookies that were set: in any order, each with its
quotes or without them, and among cookies of other names. -/
def Brings (r : Request) (setCookies : List String) : Prop :=
  ∃ parts returned others : List String,
    r.headers.filter (·.1 == "cookie") = [("cookie", "; ".intercalate parts)] ∧
    parts.Perm (returned ++ others) ∧ List.Forall₂ Returns setCookies returned ∧
    ∀ other ∈ others, ';' ∉ other.toList ∧
      ∀ setCookie ∈ setCookies, (readPart other.toList).1 ≠ (readPart (given setCookie).toList).1

theorem findSome?_chosen {α β : Type} (p : α → Bool) (f : α → Option β) (as : List α) :
    (as.findSome? fun a => if p a then f a else none) = (as.filter p).findSome? f := by
  induction as with
  | nil => rfl
  | cons a rest ih =>
    rw [List.findSome?_cons, List.filter_cons]
    by_cases h : p a
    · rw [if_pos h, if_pos h, List.findSome?_cons, ih]
    · rw [if_neg h, if_neg h, ih]

theorem cookie?_single {text : String} (h : r.headers.filter (·.1 == "cookie") = [("cookie", text)])
    (name : String) : r.cookie? name = Cookie.find? text name := by
  have hchosen := findSome?_chosen (·.1 == "cookie") (fun header : String × String =>
    Cookie.find? header.2 name) r.headers.reverse
  rw [List.filter_reverse, h, List.reverse_singleton, List.findSome?_singleton] at hchosen
  exact hchosen

theorem token?_of_cookie {token : String} (haccess : r.cookie? accessName = some token)
    (hfilled : token ≠ "") : r.token? = some token := by
  rw [token?, haccess, chooseToken, String.isEmpty_eq_false_iff.mpr hfilled]
  rfl

theorem cookie?_of_brings {settings : Cookie.Settings} {access sealed : String} {maxAge : Int}
    (haccess : IsBareword access) (hsealed : IsBareword sealed)
    (h : r.Brings [header settings accessName access maxAge, header settings sealedName sealed maxAge]) :
    r.cookie? accessName = some access ∧ r.cookie? sealedName = some sealed := by
  have haccessName : ∀ c ∈ accessName.toList, isPlain c = true := List.all_eq_true.mp (by decide)
  have hsealedName : ∀ c ∈ sealedName.toList, isPlain c = true := List.all_eq_true.mp (by decide)
  obtain ⟨parts, returned, others, hheader, hperm, hreturned, hothers⟩ := h
  obtain ⟨first, second, rfl, hfirst, hsecond⟩ : ∃ first second, returned = [first, second] ∧
      Reads first accessName access ∧ Reads second sealedName sealed := by
    cases hreturned with
    | cons hfirst hrest =>
      cases hrest with
      | cons hsecond hnil =>
        cases hnil
        exact ⟨_, _, rfl, reads_returned haccessName haccess hfirst, reads_returned hsealedName hsealed hsecond⟩
  have hforeign : ∀ other ∈ others, (readPart other.toList).1 ≠ accessName.toList ∧
      (readPart other.toList).1 ≠ sealedName.toList := by
    intro other hother
    have hnames := (hothers other hother).2
    simp only [List.forall_mem_cons, given_header haccessName, given_header hsealedName,
      (reads_pair haccessName access).2, (reads_pair hsealedName sealed).2] at hnames
    exact ⟨hnames.1, hnames.2.1⟩
  have hparts : ∀ part ∈ parts, part = first ∨ part = second ∨ part ∈ others := by
    intro part hpart
    simpa using hperm.mem_iff.mp hpart
  have hsemicolon : ∀ part ∈ parts, ';' ∉ part.toList := by
    intro part hpart
    rcases hparts part hpart with rfl | rfl | hother
    · exact hfirst.1
    · exact hsecond.1
    · exact (hothers part hother).1
  have hdistinct : accessName.toList ≠ sealedName.toList := by decide
  rw [cookie?_single hheader, cookie?_single hheader]
  constructor
  · apply find?_of_reads hsemicolon (hperm.mem_iff.mpr (by simp)) hfirst
    intro other hother hname
    rcases hparts other hother with rfl | rfl | hforeigner
    · rfl
    · rw [hsecond.2] at hname
      exact absurd hname.symm hdistinct
    · exact absurd hname (hforeign other hforeigner).1
  · apply find?_of_reads hsemicolon (hperm.mem_iff.mpr (by simp)) hsecond
    intro other hother hname
    rcases hparts other hother with rfl | rfl | hforeigner
    · rw [hfirst.2] at hname
      exact absurd hname hdistinct
    · rfl
    · exact absurd hname (hforeign other hforeigner).2

def returning (method path : String) (setCookies : List String) : Request :=
  ⟨method, path, [("cookie", "; ".intercalate (setCookies.map given))], ""⟩

theorem brings_returning (method path : String) (setCookies : List String) :
    (returning method path setCookies).Brings setCookies := by
  refine ⟨setCookies.map given, setCookies.map given, [], rfl, by rw [List.append_nil], ?_, ?_⟩
  · rw [List.forall₂_map_right_iff, List.forall₂_same]
    exact fun setCookie _ => .inl rfl
  · exact fun _ h => by cases h

end Http.Request

end Gatehouse
