import Gatehouse.Json.Reader

/-!
# Values are no larger than what they are read from

No text or name of a value that was read is longer than the input, and the parts of an array or object
are smaller still, since its brackets take up room.
-/

namespace Gatehouse

def RawText.length : RawText → Nat
  | .whole s => s.length
  | .torn codes => codes.length

theorem RawText.length_ofCodes (codes : List Nat) : (RawText.ofCodes codes).length = codes.length := by
  unfold ofCodes
  by_cases h : codes.any (fun n => isHigh n || isLow n) <;> simp [h, RawText.length]

theorem RawText.length_join (codes : List Nat) : (RawText.join codes).length ≤ codes.length := by
  induction codes using RawText.join.induct with
  | case1 high low rest h ih =>
    simp only [join, h, if_true, List.length_cons]
    omega
  | case2 high low rest h ih =>
    simp only [join, h, List.length_cons] at ih ⊢
    simpa using ih
  | case3 codes h =>
    unfold join
    split
    · rename_i high low rest
      exact absurd rfl (h high low rest)
    · exact Nat.le_refl _

namespace Json

/-! ## Sizes -/

/-- Texts and names are at most `n` long, and one less for every bracket they stand in. -/
inductive Fits : Nat → Json → Prop
  | null {n} : Fits n null
  | bool {n} (b : Bool) : Fits n (bool b)
  | integer {n} (k : Int) : Fits n (integer k)
  | real {n} (x : Binary64) : Fits n (real x)
  | text {n} {s : String} : s.length ≤ n → Fits n (text s)
  | torn {n} {codes : List Nat} : codes.length ≤ n → Fits n (torn codes)
  | array {n} {items : List Json} : (∀ v ∈ items, Fits n v) → Fits (n + 1) (array items)
  | object {n} {fields : List (String × Json)} : (∀ f ∈ fields, f.1.length ≤ n) →
      (∀ f ∈ fields, Fits n f.2) → Fits (n + 1) (object fields)
  | tornObject {n} {fields : List (RawText × Json)} : (∀ f ∈ fields, f.1.length ≤ n) →
      (∀ f ∈ fields, Fits n f.2) → Fits (n + 1) (tornObject fields)

theorem Fits.mono {m n : Nat} {v : Json} (h : Fits m v) (hmn : m ≤ n) : Fits n v := by
  induction h generalizing n with
  | null => exact .null
  | bool b => exact .bool b
  | integer k => exact .integer k
  | real x => exact .real x
  | text hs => exact .text (Nat.le_trans hs hmn)
  | torn hs => exact .torn (Nat.le_trans hs hmn)
  | array _ ih =>
    obtain ⟨n, rfl⟩ : ∃ k, n = k + 1 := ⟨n - 1, by omega⟩
    exact .array fun v hv => ih v hv (by omega)
  | object hnames _ ih =>
    obtain ⟨n, rfl⟩ : ∃ k, n = k + 1 := ⟨n - 1, by omega⟩
    exact .object (fun f hf => Nat.le_trans (hnames f hf) (by omega)) fun f hf => ih f hf (by omega)
  | tornObject hnames _ ih =>
    obtain ⟨n, rfl⟩ : ∃ k, n = k + 1 := ⟨n - 1, by omega⟩
    exact .tornObject (fun f hf => Nat.le_trans (hnames f hf) (by omega)) fun f hf => ih f hf (by omega)

theorem fits_ofRaw {n : Nat} {r : RawText} (h : r.length ≤ n) : Fits n (ofRaw r) := by
  cases r with
  | whole s => exact .text h
  | torn codes => exact .torn h

theorem mem_set {α : Type} [BEq α] [LawfulBEq α] {known : List (α × Json)} {name : α} {v : Json}
    {f : α × Json} (h : f ∈ set known name v) : f ∈ known ∨ f = (name, v) := by
  unfold set at h
  split at h
  · obtain ⟨g, hg, hf⟩ := List.mem_map.mp h
    split at hf
    · exact .inr hf.symm
    · exact .inl (hf ▸ hg)
  · simpa using h

def FieldsFit (n : Nat) (fields : List (RawText × Json)) : Prop :=
  ∀ f ∈ fields, f.1.length ≤ n ∧ Fits n f.2

theorem FieldsFit.set {n : Nat} {known : List (RawText × Json)} (h : FieldsFit n known) {name : RawText}
    {v : Json} (hname : name.length ≤ n) (hv : Fits n v) : FieldsFit n (Json.set known name v) := by
  intro f hf
  rcases mem_set hf with hf | rfl
  · exact h f hf
  · exact ⟨hname, hv⟩

theorem mem_of_mapM_whole {fields : List (RawText × Json)} {whole : List (String × Json)}
    (h : (fields.mapM fun (name, v) => name.whole?.map (·, v)) = some whole) {f : String × Json}
    (hf : f ∈ whole) : (RawText.whole f.1, f.2) ∈ fields := by
  induction fields generalizing whole with
  | nil =>
    cases h
    cases hf
  | cons g rest ih =>
    simp only [List.mapM_cons, bind, Option.bind_eq_some_iff, Option.map_eq_some_iff] at h
    obtain ⟨g', ⟨name, hname, rfl⟩, more, hmore, heq⟩ := h
    cases heq
    rcases List.mem_cons.mp hf with rfl | hf
    · obtain ⟨_ | _, v⟩ := g
      · cases hname
        simp
      · cases hname
    · exact List.mem_cons_of_mem _ (ih hmore hf)

theorem fits_ofFields {n : Nat} {fields : List (RawText × Json)} (h : FieldsFit n fields) :
    Fits (n + 1) (ofFields fields) := by
  unfold ofFields
  split
  · rename_i whole hwhole
    exact .object (fun f hf => (h _ (mem_of_mapM_whole hwhole hf)).1)
      fun f hf => (h _ (mem_of_mapM_whole hwhole hf)).2
  · exact .tornObject (fun f hf => (h f hf).1) fun f hf => (h f hf).2

/-! ## Texts and numbers -/

theorem length_codes {cs rest : List Char} {ns : List Nat} (h : codes cs = some (ns, rest)) :
    ns.length + rest.length < cs.length := by
  induction cs using codes.induct generalizing ns rest with
  | case1 => cases h
  | case2 tail =>
    cases h
    simp
  | case3 a b c d tail ih =>
    simp only [codes, bind, Option.bind_eq_some_iff] at h
    obtain ⟨n, -, ⟨more, back⟩, hmore, heq⟩ := h
    cases heq
    have := ih hmore
    simp only [List.length_cons]
    omega
  | case4 c tail hu ih =>
    simp only [codes, bind, Option.bind_eq_some_iff] at h
    obtain ⟨n, -, ⟨more, back⟩, hmore, heq⟩ := h
    cases heq
    have := ih hmore
    simp only [List.length_cons]
    omega
  | case5 c tail hq hu hb hc =>
    simp only [codes, hc] at h
    cases h
  | case6 c tail hq hu hb hc ih =>
    simp only [codes, hc, bind, if_false, Option.bind_eq_some_iff] at h
    obtain ⟨⟨more, back⟩, hmore, heq⟩ := h
    cases heq
    have := ih hmore
    simp only [List.length_cons]
    omega

theorem length_readText {d : Dialect} {cs rest : List Char} {r : RawText}
    (h : readText d cs = .ok (r, rest)) : r.length + rest.length < cs.length := by
  unfold readText at h
  split at h
  · cases h
  · rename_i ns back hcodes
    have hlength := length_codes hcodes
    have hjoin := RawText.length_join ns
    rw [← RawText.length_ofCodes] at hjoin
    split at h
    · rename_i s hs
      cases h
      rw [hs] at hjoin
      omega
    · rename_i codes hs
      split at h
      · cases h
        rw [hs] at hjoin
        omega
      · cases h

theorem length_wholePart (cs : List Char) : (wholePart cs).length ≤ cs.length := by
  unfold wholePart
  split
  · simp
  · exact (List.takeWhile_prefix isDigit).length_le

theorem length_fraction (cs : List Char) : (fraction cs).length + 1 ≤ cs.length ∨ fraction cs = [] := by
  unfold fraction
  split
  · rename_i rest
    have := (List.takeWhile_prefix isDigit (l := rest)).length_le
    simp only [List.length_cons]
    omega
  · exact .inr rfl

theorem length_exponent {cs written : List Char} {e : Int} (h : exponent cs = some (written, e)) :
    written.length ≤ cs.length := by
  unfold exponent at h
  split at h
  · rename_i mark rest
    split at h
    · extract_lets sign digits size at h
      have hsign : sign.length ≤ rest.length := by
        unfold sign
        split <;> simp
      have hdigits := (List.takeWhile_prefix isDigit (l := rest.drop sign.length)).length_le
      rw [List.length_drop] at hdigits
      split at h
      · cases h
      · cases h
        simp only [List.length_cons, List.cons_append, List.length_append]
        unfold digits
        omega
    · cases h
  · cases h

theorem readNumber_fits {d : Dialect} {negative : Bool} {cs rest : List Char} {v : Json}
    (h : readNumber d negative cs = .ok (v, rest)) :
    Fits (cs.length + if negative then 1 else 0) v ∧ rest.length ≤ cs.length := by
  unfold readNumber at h
  extract_lets whole behind part point behind' power tail last minus at h
  have hwhole : whole.length ≤ cs.length := length_wholePart cs
  have hpoint : point.length ≤ behind.length := by
    unfold point
    rcases length_fraction behind with hpart | hpart
    · split
      · simp
      · exact hpart
    · simp [part, hpart]
  have htail : tail.length ≤ behind'.length := by
    cases hpower : exponent behind' with
    | none => simp [tail, power, hpower]
    | some found =>
      simp only [tail, power, hpower]
      exact length_exponent hpower
  have hminus : minus.length = if negative then 1 else 0 := by
    cases negative <;> rfl
  have hbehind : behind.length = cs.length - whole.length := List.length_drop
  have hbehind' : behind'.length = behind.length - point.length := List.length_drop
  have hlast : last.length ≤ cs.length := by
    have : last.length = behind'.length - tail.length := List.length_drop
    omega
  clear_value last
  split at h
  · cases h
  · split at h
    · cases h
    · split at h
      · cases h
        refine ⟨.text ?_, hlast⟩
        simp only [String.length_ofList, List.length_append]
        omega
      · split at h
        · split at h
          · cases h
          · cases h
            exact ⟨.integer _, hlast⟩
        · cases h
          exact ⟨.real _, hlast⟩

theorem word?_fits {cs rest : List Char} {v : Json} (h : word? cs = some (v, rest)) (n : Nat) :
    Fits n v ∧ rest.length ≤ cs.length := by
  obtain ⟨⟨w, u⟩, hmem, hfound⟩ := List.exists_of_findSome?_eq_some h
  simp only at hfound
  split at hfound
  · cases hfound
    refine ⟨?_, by simp⟩
    simp only [words, List.mem_cons, Prod.mk.injEq, List.not_mem_nil, or_false] at hmem
    rcases hmem with ⟨-, rfl⟩ | ⟨-, rfl⟩ | ⟨-, rfl⟩ | ⟨-, rfl⟩ | ⟨-, rfl⟩ | ⟨-, rfl⟩
    · exact .null
    · exact .bool _
    · exact .bool _
    · exact .real _
    · exact .real _
    · exact .real _
  · cases hfound

/-! ## Values -/

theorem length_skip (cs : List Char) : (skip cs).length ≤ cs.length :=
  (List.dropWhile_suffix isGap).length_le

theorem bind_eq_ok {ε α β : Type} {x : Except ε α} {f : α → Except ε β} {b : β} :
    (x >>= f) = .ok b ↔ ∃ a, x = .ok a ∧ f a = .ok b := by
  cases x <;> simp [bind, Except.bind]

mutual

-- Along the fuel. An item fits what is left where it begins, and the names and values of an object fit a
-- bound that is fixed where the object begins, since a later value of a name replaces an earlier one.
theorem readValue_fits {d : Dialect} : ∀ {fuel depth : Nat} {cs rest : List Char} {v : Json},
    readValue d fuel depth cs = .ok (v, rest) → Fits cs.length v ∧ rest.length ≤ cs.length
  | 0, depth, cs, rest, v, h => by
    unfold readValue at h
    cases h
  | fuel + 1, depth, cs, rest, v, h => by
    unfold readValue at h
    split at h
    · rename_i tail
      obtain ⟨⟨r, back⟩, hr, heq⟩ := bind_eq_ok.mp h
      cases heq
      have := length_readText hr
      simp only [List.length_cons]
      exact ⟨fits_ofRaw (by omega), by omega⟩
    · rename_i tail
      have hskip := length_skip tail
      simp only [List.length_cons]
      split at h
      · rename_i back hback
        rw [hback, List.length_cons] at hskip
        split at h
        · cases h
        · cases h
          exact ⟨.array (by simp), by omega⟩
      · cases h
      · split at h
        · rename_i back hback
          rw [hback, List.length_cons] at hskip
          cases h
          exact ⟨.array (by simp), by omega⟩
        · obtain ⟨⟨items, back⟩, hitems, heq⟩ := bind_eq_ok.mp h
          cases heq
          obtain ⟨hfits, hback⟩ := readItems_fits hitems
          exact ⟨.array fun v hv => (hfits v hv).mono hskip, Nat.le_trans hback (by omega)⟩
    · rename_i tail
      have hskip := length_skip tail
      simp only [List.length_cons]
      split at h
      · rename_i back hback
        rw [hback, List.length_cons] at hskip
        split at h
        · cases h
        · cases h
          exact ⟨.object (by simp) (by simp), by omega⟩
      · cases h
      · split at h
        · rename_i back hback
          rw [hback, List.length_cons] at hskip
          cases h
          exact ⟨.object (by simp) (by simp), by omega⟩
        · obtain ⟨⟨fields, back⟩, hfields, heq⟩ := bind_eq_ok.mp h
          cases heq
          obtain ⟨hfits, hback⟩ := readFields_fits hfields hskip (by simp [FieldsFit])
          exact ⟨fits_ofFields hfits, Nat.le_trans hback (by omega)⟩
    · split at h
      · rename_i found hfound
        cases h
        exact word?_fits hfound _
      · split at h
        · obtain ⟨hfits, hrest⟩ := readNumber_fits h
          exact ⟨hfits, Nat.le_trans hrest (by simp)⟩
        · exact readNumber_fits h

theorem readItems_fits {d : Dialect} : ∀ {fuel depth : Nat} {cs rest : List Char} {items : List Json},
    readItems d fuel depth cs = .ok (items, rest) →
      (∀ v ∈ items, Fits cs.length v) ∧ rest.length ≤ cs.length
  | 0, depth, cs, rest, items, h => by
    unfold readItems at h
    cases h
  | fuel + 1, depth, cs, rest, items, h => by
    unfold readItems at h
    obtain ⟨⟨v, back⟩, hv, h⟩ := bind_eq_ok.mp h
    obtain ⟨hfits, hback⟩ := readValue_fits hv
    have hskip := length_skip back
    simp only at h
    split at h
    · rename_i tail htail
      rw [htail, List.length_cons] at hskip
      obtain ⟨⟨more, behind⟩, hmore, heq⟩ := bind_eq_ok.mp h
      cases heq
      obtain ⟨hmores, hbehind⟩ := readItems_fits hmore
      have := length_skip tail
      refine ⟨?_, Nat.le_trans hbehind (by omega)⟩
      intro w hw
      rcases List.mem_cons.mp hw with rfl | hw
      · exact hfits
      · exact (hmores w hw).mono (by omega)
    · rename_i tail htail
      rw [htail, List.length_cons] at hskip
      cases h
      refine ⟨?_, by omega⟩
      simpa using hfits
    · cases h

theorem readFields_fits {d : Dialect} {n : Nat} : ∀ {fuel depth : Nat} {known fields : List (RawText × Json)}
    {cs rest : List Char}, readFields d fuel depth known cs = .ok (fields, rest) → cs.length ≤ n →
      FieldsFit n known → FieldsFit n fields ∧ rest.length ≤ n
  | 0, depth, known, fields, cs, rest, h, hn, hknown => by
    unfold readFields at h
    cases h
  | fuel + 1, depth, known, fields, cs, rest, h, hn, hknown => by
    unfold readFields at h
    split at h
    · rename_i tail
      obtain ⟨⟨name, back⟩, hname, h⟩ := bind_eq_ok.mp h
      have hlength := length_readText hname
      have hskip := length_skip back
      simp only [List.length_cons] at hn h
      split at h
      · rename_i tail htail
        rw [htail, List.length_cons] at hskip
        obtain ⟨⟨v, back⟩, hv, h⟩ := bind_eq_ok.mp h
        obtain ⟨hfits, hback⟩ := readValue_fits hv
        have hbehind := length_skip tail
        have hnext := length_skip back
        -- the name and the value are read from behind the bracket, so the bound of the rest is theirs too
        have hroom : name.length ≤ n := by omega
        have hknown := hknown.set hroom (hfits.mono (by omega))
        simp only at h
        split at h
        · rename_i last hlast
          rw [hlast, List.length_cons] at hnext
          have := length_skip last
          exact readFields_fits h (by omega) hknown
        · rename_i last hlast
          rw [hlast, List.length_cons] at hnext
          cases h
          exact ⟨hknown, by omega⟩
        · cases h
      · cases h
    · cases h

end

/-- What is read from a text is no larger than the text. -/
theorem read_fits {d : Dialect} {s : String} {v : Json} (h : read d s = .ok v) : Fits s.length v := by
  obtain ⟨⟨w, rest⟩, hw, h⟩ := bind_eq_ok.mp h
  simp only at h
  split at h
  · cases h
    rw [← String.length_toList]
    exact (readValue_fits hw).1.mono (length_skip s.toList)
  · cases h

end Json
end Gatehouse
