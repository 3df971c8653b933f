import Gatehouse.Proofs.Json.Number
import Gatehouse.Proofs.Json.Text

/-!
# Written values read back

A value made of whole texts, short integers and distinct names is read exactly as it was written, in
every style, as long as the dialect allows its depth. The main statement is `read_write`.
-/

namespace Gatehouse.Json

/-! ## Values that survive writing -/

/-- Reals and torn texts are left out; integers are short, names distinct and containers at most
`depth` deep. -/
inductive IsPlain (d : Dialect) : Nat → Json → Prop
  | null {depth} : IsPlain d depth null
  | bool {depth} (b : Bool) : IsPlain d depth (bool b)
  | integer {depth} (n : Int) : (Nat.toDigits 10 n.natAbs).length < d.digits → IsPlain d depth (integer n)
  | text {depth} (s : String) : IsPlain d depth (text s)
  | array {depth} (items : List Json) : (∀ v ∈ items, IsPlain d depth v) →
      IsPlain d (depth + 1) (array items)
  | object {depth} (fields : List (String × Json)) : (fields.map (·.1)).Nodup →
      (∀ f ∈ fields, IsPlain d depth f.2) → IsPlain d (depth + 1) (object fields)

structure Style.IsLawful (style : Style) : Prop where
  comma : ∃ gap, style.comma = ',' :: gap ∧ gap.all isGap
  colon : ∃ gap, style.colon = ':' :: gap ∧ gap.all isGap

theorem compact_lawful : compact.IsLawful := ⟨⟨[], rfl, rfl⟩, ⟨[], rfl, rfl⟩⟩

theorem compactAscii_lawful : compactAscii.IsLawful := ⟨⟨[], rfl, rfl⟩, ⟨[], rfl, rfl⟩⟩

theorem spacedAscii_lawful : spacedAscii.IsLawful := ⟨⟨[' '], rfl, rfl⟩, ⟨[' '], rfl, rfl⟩⟩

/-! ## Blanks -/

def IsStart (cs : List Char) : Prop :=
  ∃ c rest, cs = c :: rest ∧ isGap c = false ∧ c ≠ ']' ∧ c ≠ '\x7d'

theorem IsStart.append {cs : List Char} (h : IsStart cs) (more : List Char) : IsStart (cs ++ more) := by
  obtain ⟨c, rest, rfl, hc⟩ := h
  exact ⟨c, rest ++ more, rfl, hc⟩

theorem IsStart.skip {cs : List Char} (h : IsStart cs) : skip cs = cs := by
  obtain ⟨c, rest, rfl, hc, -⟩ := h
  rw [Json.skip, List.dropWhile_cons, hc]
  rfl

theorem skip_gap {gap cs : List Char} (hg : gap.all isGap) (h : IsStart cs) : skip (gap ++ cs) = cs := by
  rw [List.all_eq_true] at hg
  rw [skip, List.dropWhile_append_of_pos hg]
  exact h.skip

theorem isStart_text (ascii : Bool) (s : String) : IsStart (writeText ascii s) :=
  ⟨'"', _, rfl, rfl, by decide, by decide⟩

theorem isStart_digits (n : Nat) : IsStart (Nat.toDigits 10 n) := by
  cases hd : Nat.toDigits 10 n with
  | nil => exact absurd hd Nat.toDigits_ne_nil
  | cons c cs =>
    have hc := isDigit_of_mem_digits (n := n) (c := c) (by rw [hd]; simp)
    refine ⟨c, cs, rfl, ?_, ?_, ?_⟩
    · cases hg : isGap c with
      | false => rfl
      | true =>
        simp only [isGap, Bool.or_eq_true, beq_iff_eq] at hg
        rcases hg with ((rfl | rfl) | rfl) | rfl <;> cases hc
    · rintro rfl; cases hc
    · rintro rfl; cases hc

theorem writeInteger_eq (n : Int) :
    writeInteger n = (if n < 0 then ['-'] else []) ++ Nat.toDigits 10 n.natAbs := by
  unfold writeInteger
  rw [Nat.toString_eq_repr, Nat.toList_repr]
  split <;> rfl

theorem IsPlain.start {d : Dialect} {depth : Nat} {v : Json} (h : IsPlain d depth v) (style : Style) :
    IsStart (writeValue style v) := by
  cases h with
  | null => exact ⟨'n', _, rfl, rfl, by decide, by decide⟩
  | bool b =>
    cases b with
    | false => exact ⟨'f', _, rfl, rfl, by decide, by decide⟩
    | true => exact ⟨'t', _, rfl, rfl, by decide, by decide⟩
  | integer n =>
    rw [writeValue, writeInteger_eq]
    split
    · exact ⟨'-', _, rfl, rfl, by decide, by decide⟩
    · exact isStart_digits _
  | text s => exact isStart_text style.ascii s
  | array => exact ⟨'[', _, rfl, rfl, by decide, by decide⟩
  | object => exact ⟨'\x7b', _, rfl, rfl, by decide, by decide⟩

/-! ## One value -/

def ReadsBack (d : Dialect) (style : Style) (depth : Nat) (v : Json) : Prop :=
  ∀ (fuel : Nat) (rest : List Char), (writeValue style v).length ≤ fuel → IsEnd rest →
    readValue d fuel depth (writeValue style v ++ rest) = .ok (v, rest)

section
variable {d : Dialect} {style : Style} {depth : Nat}

theorem readsBack_text (s : String) : ReadsBack d style depth (text s) := by
  intro fuel rest hf _
  cases fuel with
  | zero => simp [writeValue, writeText] at hf
  | succ fuel =>
    simp only [writeValue, writeText, List.cons_append, List.append_assoc, List.nil_append, readValue]
    rw [readText_written]
    rfl

theorem digit_ne {c x : Char} (hc : isDigit c = true) (hx : isDigit x = false) : x ≠ c := by
  rintro rfl
  rw [hx] at hc
  cases hc

theorem word?_digit {c : Char} (hc : isDigit c = true) (rest : List Char) : word? (c :: rest) = none := by
  have hn := digit_ne hc (x := 'n') rfl
  have ht := digit_ne hc (x := 't') rfl
  have hf := digit_ne hc (x := 'f') rfl
  have hN := digit_ne hc (x := 'N') rfl
  have hI := digit_ne hc (x := 'I') rfl
  have hm := digit_ne hc (x := '-') rfl
  simp [word?, words, hn, ht, hf, hN, hI, hm]

theorem word?_minus {c : Char} (hc : isDigit c = true) (rest : List Char) :
    word? ('-' :: c :: rest) = none := by
  have hI := digit_ne hc (x := 'I') rfl
  simp [word?, words, hI]

theorem readValue_other {c : Char} (hq : c ≠ '"') (hb : c ≠ '[') (hc : c ≠ '\x7b') (fuel : Nat)
    (cs : List Char) : readValue d (fuel + 1) depth (c :: cs) =
      match word? (c :: cs) with
      | some found => .ok found
      | none =>
        match c :: cs with
        | '-' :: rest => readNumber d true rest
        | _ => readNumber d false (c :: cs) := by
  rw [readValue.eq_def]
  simp only
  split
  · rename_i h; cases h; contradiction
  · rename_i h; cases h; contradiction
  · rename_i h; cases h; contradiction
  · rfl

theorem readsBack_word {v : Json} {c : Char} {w : List Char} (hw : writeValue style v = c :: w)
    (hq : c ≠ '"') (hb : c ≠ '[') (hc : c ≠ '\x7b')
    (hword : ∀ rest, word? (c :: (w ++ rest)) = some (v, rest)) : ReadsBack d style depth v := by
  intro fuel rest hf _
  rw [hw] at hf ⊢
  cases fuel with
  | zero => cases hf
  | succ fuel => rw [List.cons_append, readValue_other hq hb hc, hword]

theorem readsBack_null : ReadsBack d style depth null :=
  readsBack_word (c := 'n') (w := ['u', 'l', 'l']) rfl (by decide) (by decide) (by decide)
    (by simp [word?, words])

theorem readsBack_bool (b : Bool) : ReadsBack d style depth (bool b) := by
  cases b with
  | false =>
    exact readsBack_word (c := 'f') (w := ['a', 'l', 's', 'e']) rfl (by decide) (by decide) (by decide)
      (by simp [word?, words])
  | true =>
    exact readsBack_word (c := 't') (w := ['r', 'u', 'e']) rfl (by decide) (by decide) (by decide)
      (by simp [word?, words])

theorem readsBack_integer (hd : d.numerals = false) (n : Int)
    (hn : (Nat.toDigits 10 n.natAbs).length < d.digits) : ReadsBack d style depth (integer n) := by
  intro fuel rest hf hr
  obtain ⟨c, cs, hcs⟩ := List.exists_cons_of_ne_nil (Nat.toDigits_ne_nil (n := n.natAbs) (b := 10))
  have hc : isDigit c = true := isDigit_of_mem_digits (n := n.natAbs) (by rw [hcs]; simp)
  have hnumber := fun negative => readNumber_digits hr hd negative hn
  rw [writeValue, writeInteger_eq] at hf ⊢
  rw [hcs] at hf hnumber ⊢
  simp only [List.cons_append] at hnumber
  cases fuel with
  | zero => simp at hf
  | succ fuel =>
    by_cases hneg : n < 0
    · have hn' : (-(n.natAbs : Int)) = n := by omega
      simp only [hneg, if_true, List.cons_append, List.nil_append]
      rw [readValue_other (by decide) (by decide) (by decide), word?_minus hc]
      simp only [hnumber true, if_true, hn']
    · have hn' : (n.natAbs : Int) = n := by omega
      have hq := (digit_ne hc (x := '"') rfl).symm
      have hb := (digit_ne hc (x := '[') rfl).symm
      have hc' := (digit_ne hc (x := '\x7b') rfl).symm
      simp only [hneg, if_false, List.cons_append, List.nil_append]
      rw [readValue_other hq hb hc', word?_digit hc]
      simp only
      split
      · rename_i h; cases h; cases hc
      · simp only [hnumber false, Bool.false_eq_true, if_false, hn']

end

/-! ## Containers -/

theorem writeItems_cons (style : Style) (v w : Json) (vs : List Json) : writeItems style (v :: w :: vs) =
    writeValue style v ++ style.comma ++ writeItems style (w :: vs) := rfl

theorem writeFields_cons (style : Style) (name : String) (v : Json) (f : String × Json)
    (fs : List (String × Json)) : writeFields style ((name, v) :: f :: fs) =
    writeText style.ascii name ++ style.colon ++ writeValue style v ++ style.comma ++
      writeFields style (f :: fs) := rfl

theorem isStart_items {style : Style} {v : Json} (h : IsStart (writeValue style v)) :
    ∀ vs : List Json, IsStart (writeItems style (v :: vs))
  | [] => h
  | w :: vs => by
    rw [writeItems_cons, List.append_assoc]
    exact h.append _

theorem isStart_fields (style : Style) (name : String) (v : Json) :
    ∀ fs : List (String × Json), IsStart (writeFields style ((name, v) :: fs))
  | [] => by
    rw [writeFields, List.append_assoc]
    exact (isStart_text style.ascii name).append _
  | f :: fs => by
    rw [writeFields_cons, List.append_assoc, List.append_assoc, List.append_assoc]
    exact (isStart_text style.ascii name).append _

theorem skip_end {c : Char} (h : isGap c = false) (rest : List Char) : skip (c :: rest) = c :: rest := by
  rw [skip, List.dropWhile_cons, h]
  rfl

theorem set_new {α : Type} [BEq α] [LawfulBEq α] {fields : List (α × Json)} {name : α} (v : Json)
    (h : name ∉ fields.map (·.1)) : set fields name v = fields ++ [(name, v)] := by
  have hnone : fields.any (·.1 == name) = false := by
    rw [List.any_eq_false]
    intro f hf he
    exact h (List.mem_map.mpr ⟨f, hf, eq_of_beq he⟩)
  rw [set, hnone]
  rfl

def rawFields (fields : List (String × Json)) : List (RawText × Json) :=
  fields.map fun f => (.whole f.1, f.2)

theorem ofFields_rawFields (fields : List (String × Json)) : ofFields (rawFields fields) = object fields := by
  have h : (rawFields fields).mapM (fun f => f.1.whole?.map (·, f.2)) = some fields := by
    induction fields with
    | nil => rfl
    | cons f fs ih =>
      rw [rawFields] at ih
      rw [rawFields, List.map_cons, List.mapM_cons, ih]
      rfl
  rw [ofFields]
  simp only [h]

theorem nodup_rawFields {fields : List (String × Json)} (h : (fields.map (·.1)).Nodup) :
    ((rawFields fields).map (·.1)).Nodup := by
  have hnames : (rawFields fields).map (·.1) = (fields.map (·.1)).map RawText.whole := by
    simp [rawFields]
  rw [hnames]
  exact List.Pairwise.map _ (fun a b hab he => hab (RawText.whole.inj he)) h

def afterField (d : Dialect) (fuel depth : Nat) (known : List (RawText × Json)) (rest : List Char) :
    Except ReadFault (List (RawText × Json) × List Char) :=
  match skip rest with
  | ',' :: rest => readFields d fuel depth known (skip rest)
  | '\x7d' :: rest => .ok (known, rest)
  | _ => .error .malformed

section
variable {d : Dialect} {style : Style} {depth : Nat} (hs : style.IsLawful)
include hs

theorem readItems_written : ∀ (v : Json) (vs : List Json) (fuel : Nat) (rest : List Char),
    (∀ w ∈ v :: vs, IsPlain d depth w) → (∀ w ∈ v :: vs, ReadsBack d style depth w) →
      (writeItems style (v :: vs)).length < fuel →
        readItems d fuel depth (writeItems style (v :: vs) ++ ']' :: rest) = .ok (v :: vs, rest)
  -- on the items that are left; the last one has no comma behind it
  | v, [], fuel + 1, rest, _, hr, hf => by
    rw [writeItems] at hf ⊢
    rw [readItems, hr v (by simp) fuel (']' :: rest) (by omega) (isEnd_cons (by simp) _)]
    simp [bind, Except.bind, skip_end (c := ']') rfl]
  | v, w :: vs, fuel + 1, rest, hp, hr, hf => by
    obtain ⟨gap, hcomma, hgap⟩ := hs.comma
    have hstart := (isStart_items ((hp w (by simp)).start style) vs).append (']' :: rest)
    rw [writeItems_cons, hcomma] at hf ⊢
    simp only [List.length_append, List.length_cons] at hf
    simp only [List.append_assoc, List.cons_append]
    rw [readItems, hr v (by simp) fuel _ (by omega) (isEnd_cons (by simp) _)]
    simp only [bind, Except.bind, skip_end (c := ',') rfl, skip_gap hgap hstart]
    rw [readItems_written w vs fuel rest (fun x hx => hp x (by simp [hx]))
      (fun x hx => hr x (by simp [hx])) (by omega)]

theorem readFields_name {name : String} {v : Json} (hv : IsPlain d depth v)
    (hr : ReadsBack d style depth v) (fuel : Nat) (known : List (RawText × Json)) (rest : List Char)
    (hf : (writeValue style v).length ≤ fuel) (hrest : IsEnd rest) :
    readFields d (fuel + 1) depth known
        (writeText style.ascii name ++ style.colon ++ writeValue style v ++ rest) =
      afterField d fuel depth (set known (.whole name) v) rest := by
  obtain ⟨gap, hcolon, hgap⟩ := hs.colon
  have hstart := (hv.start style).append rest
  rw [writeText, hcolon]
  simp only [List.append_assoc, List.cons_append, List.nil_append]
  rw [readFields, readText_written]
  simp only [bind, Except.bind, skip_end (c := ':') rfl, skip_gap hgap hstart, hr fuel rest hf hrest]
  rfl

theorem readFields_written : ∀ (f : String × Json) (fs : List (String × Json)) (fuel : Nat)
    (known : List (RawText × Json)) (rest : List Char),
    (known.map (·.1) ++ (rawFields (f :: fs)).map (·.1)).Nodup →
      (∀ g ∈ f :: fs, IsPlain d depth g.2) → (∀ g ∈ f :: fs, ReadsBack d style depth g.2) →
        (writeFields style (f :: fs)).length < fuel →
          readFields d fuel depth known (writeFields style (f :: fs) ++ '\x7d' :: rest) =
            .ok (known ++ rawFields (f :: fs), rest)
  -- no name has been seen before, so every field goes to the end of the known ones
  | (name, v), [], fuel + 1, known, rest, hn, hp, hr, hf => by
    have hv : IsPlain d depth v := hp (name, v) (by simp)
    have hrv : ReadsBack d style depth v := hr (name, v) (by simp)
    have hnew : RawText.whole name ∉ known.map (·.1) := by
      intro h
      exact (List.nodup_append.mp hn).2.2 _ h _ (by simp [rawFields]) rfl
    rw [writeFields] at hf ⊢
    simp only [List.length_append] at hf
    rw [readFields_name hs hv hrv fuel known _ (by omega)
      (isEnd_cons (by simp) _)]
    simp [afterField, skip_end (c := '\x7d') rfl, set_new v hnew, rawFields]
  | (name, v), f :: fs, fuel + 1, known, rest, hn, hp, hr, hf => by
    have hv : IsPlain d depth v := hp (name, v) (by simp)
    have hrv : ReadsBack d style depth v := hr (name, v) (by simp)
    have hnew : RawText.whole name ∉ known.map (·.1) := by
      intro h
      exact (List.nodup_append.mp hn).2.2 _ h _ (by simp [rawFields]) rfl
    obtain ⟨gap, hcomma, hgap⟩ := hs.comma
    have hstart := (isStart_fields style f.1 f.2 fs).append ('\x7d' :: rest)
    rw [writeFields_cons, hcomma] at hf ⊢
    simp only [List.length_append, List.length_cons] at hf
    have hshape : writeText style.ascii name ++ style.colon ++ writeValue style v ++ (',' :: gap) ++
        writeFields style (f :: fs) ++ '\x7d' :: rest =
        writeText style.ascii name ++ style.colon ++ writeValue style v ++
          ',' :: (gap ++ (writeFields style (f :: fs) ++ '\x7d' :: rest)) := by simp
    rw [hshape, readFields_name hs hv hrv fuel known _ (by omega)
      (isEnd_cons (by simp) _)]
    simp only [afterField, skip_end (c := ',') rfl, skip_gap hgap hstart]
    rw [set_new v hnew, readFields_written f fs fuel _ rest (by simpa [rawFields] using hn)
      (fun g hg => hp g (by simp [hg])) (fun g hg => hr g (by simp [hg])) (by omega)]
    simp [rawFields]

theorem readsBack_array {items : List Json} (hp : ∀ v ∈ items, IsPlain d depth v)
    (hr : ∀ v ∈ items, ReadsBack d style depth v) : ReadsBack d style (depth + 1) (array items) := by
  intro fuel rest hf _
  rw [writeValue] at hf ⊢
  simp only [List.length_append, List.length_cons, List.length_nil] at hf
  cases fuel with
  | zero => omega
  | succ fuel =>
    simp only [List.cons_append, List.append_assoc, List.nil_append]
    rw [readValue]
    cases items with
    | nil => simp [writeItems, skip_end (c := ']') rfl]
    | cons v vs =>
      have hstart := (isStart_items ((hp v (by simp)).start style) vs).append (']' :: rest)
      rw [hstart.skip]
      simp only
      split
      -- a value does not start like the end of its array
      · rename_i h
        obtain ⟨c, more, hc, -, hb, -⟩ := hstart
        rw [h] at hc
        cases hc
        exact absurd rfl hb
      · rw [readItems_written hs v vs fuel rest hp hr (by omega)]
        rfl

theorem readsBack_object {fields : List (String × Json)} (hn : (fields.map (·.1)).Nodup)
    (hp : ∀ f ∈ fields, IsPlain d depth f.2) (hr : ∀ f ∈ fields, ReadsBack d style depth f.2) :
    ReadsBack d style (depth + 1) (object fields) := by
  intro fuel rest hf _
  rw [writeValue] at hf ⊢
  simp only [List.length_append, List.length_cons, List.length_nil] at hf
  cases fuel with
  | zero => omega
  | succ fuel =>
    simp only [List.cons_append, List.append_assoc, List.nil_append]
    rw [readValue]
    cases fields with
    | nil => simp [writeFields, skip_end (c := '\x7d') rfl]
    | cons f fs =>
      have hstart := (isStart_fields style f.1 f.2 fs).append ('\x7d' :: rest)
      rw [hstart.skip]
      simp only
      split
      -- a name does not start like the end of its object
      · rename_i h
        obtain ⟨c, more, hc, -, -, hb⟩ := hstart
        rw [h] at hc
        cases hc
        exact absurd rfl hb
      · rw [readFields_written hs f fs fuel [] rest (nodup_rawFields hn) hp hr (by omega)]
        simp [bind, Except.bind, ofFields_rawFields]

theorem readsBack (hd : d.numerals = false) {depth : Nat} {v : Json} (h : IsPlain d depth v) :
    ReadsBack d style depth v := by
  induction h with
  | null => exact readsBack_null
  | bool b => exact readsBack_bool b
  | integer n hn => exact readsBack_integer hd n hn
  | text s => exact readsBack_text s
  | array items hp ih => exact readsBack_array hs hp ih
  | object fields hn hp ih => exact readsBack_object hs hn hp ih

/-- **Reading undoes writing.** -/
theorem read_write (hd : d.numerals = false) {v : Json} (h : IsPlain d d.depth v) :
    read d (v.write style) = .ok v := by
  have hskip : skip (writeValue style v) = writeValue style v := (h.start style).skip
  have hread := readsBack hs hd h (2 * (writeValue style v).length + 2) [] (by omega) isEnd_nil
  rw [List.append_nil] at hread
  rw [read, write, String.toList_ofList]
  simp only [hskip, hread, bind, Except.bind]
  rfl

end

end Gatehouse.Json
